import SmartParking.Api.Calls

namespace SmartParking.Api.Advertised
open Lib.Rounding RateLimiter Calls

-- A read as the middleware checks it.
def read (now : Seconds) : Call := ⟨now,.read,none⟩

variable {settings : Settings} {tenantId name : String} {windowSeconds now t u : Seconds} {limit retry : Int}
  {items : Dict} {z : ZSet} {r : Redis}

theorem default_known (settings : Settings) : ∀ item ∈ settings.defaultLimits, (windows item.1).isSome := by
  intro item listed
  rcases List.mem_pair.mp listed with rfl | rfl <;> rfl

-- The window that refuses a call is one of the call's own.
theorem denied_listed (now : Seconds) (r : Redis) (denied : (checkWindows tenantId now items r).2 = .denied name retry) :
    ∃ limit windowSeconds, (name,limit) ∈ items ∧ windows name = some windowSeconds := by
  induction items generalizing r with
  | nil => cases denied
  | cons item rest ih =>
    obtain ⟨other,limit⟩ := item
    unfold checkWindows at denied
    split at denied
    · cases denied
    · dsimp only at denied
      split at denied
      · cases denied
        exact ⟨limit,_,List.mem_cons_self,‹_›⟩
      · obtain ⟨limit,windowSeconds,listed,window⟩ := ih _ denied
        exact ⟨limit,windowSeconds,List.mem_cons_of_mem _ listed,window⟩

theorem windows_known (now : Seconds) (r : Redis) (known : ∀ item ∈ items, (windows item.1).isSome) :
    (checkWindows tenantId now items r).2 ≠ .keyError name := by
  induction items generalizing r with
  | nil =>
    intro missing
    cases missing
  | cons item rest ih =>
    obtain ⟨there,later⟩ := List.forall_mem_cons.mp known
    obtain ⟨windowSeconds,window⟩ := Option.isSome_iff_exists.mp there
    rw [checkWindows,window]
    dsimp only
    split
    · intro missing
      cases missing
    · exact ih _ later

theorem read_denied (enabled : settings.rateLimitEnabled = true) (now : Seconds) (r : Redis)
    (refused : (checkLimit settings tenantId (read now) r).2 ≠ .allowed) :
    ∃ name retry, (checkLimit settings tenantId (read now) r).2 = .denied name retry := by
  rw [checkLimit_enabled enabled] at refused ⊢
  cases answer : (checkWindows tenantId (read now).now (settings.limits (read now)) r).2 with
  | allowed => exact absurd answer refused
  | denied name retry => exact ⟨name,retry,rfl⟩
  | keyError name => exact absurd answer (windows_known _ r (default_known settings))

theorem inspected (settings : Settings) (tenantId : String) (now : Seconds) (r : Redis) :
    getLimitInfo settings tenantId now r =
      (Function.update (Function.update r (key tenantId "minute") (pruned 60 now (r (key tenantId "minute"))))
        (key tenantId "hour") (pruned 3600 now (r (key tenantId "hour"))),
      [windowInfo "minute" settings.rateLimitPerMinute 60 now (pruned 60 now (r (key tenantId "minute"))),
        windowInfo "hour" settings.rateLimitPerHour 3600 now (pruned 3600 now (r (key tenantId "hour")))]) := by
  have apart : key tenantId "hour" ≠ key tenantId "minute" := fun same => absurd (key_injective tenantId same) (by decide)
  have minute : windows "minute" = some 60 := rfl
  have hour : windows "hour" = some 3600 := rfl
  simp only [getLimitInfo,Settings.defaultLimits,inspect,minute,hour,Function.update_of_ne apart]

-- What `get_limit_info` leaves in a set, and what it says about it.
theorem inspected_set (tenantId : String) (now : Seconds) (r : Redis) (member : (name,limit) ∈ settings.defaultLimits)
    (window : windows name = some windowSeconds) :
    (getLimitInfo settings tenantId now r).1 (key tenantId name) = pruned windowSeconds now (r (key tenantId name)) ∧
      windowInfo name limit windowSeconds now (pruned windowSeconds now (r (key tenantId name))) ∈
        (getLimitInfo settings tenantId now r).2 := by
  rw [inspected]
  rcases List.mem_pair.mp member with same | same
  · cases same
    cases window
    have apart : key tenantId "minute" ≠ key tenantId "hour" := fun same => absurd (key_injective tenantId same) (by decide)
    refine ⟨?_,List.mem_cons_self⟩
    dsimp only
    rw [Function.update_of_ne apart,Function.update_self]
  · cases same
    cases window
    exact ⟨Function.update_self _ _ _,List.mem_cons_of_mem _ List.mem_cons_self⟩

theorem inspected_info {info : Info} (now : Seconds) (r : Redis) (member : info ∈ (getLimitInfo settings tenantId now r).2) :
    ∃ name limit windowSeconds, (name,limit) ∈ settings.defaultLimits ∧ windows name = some windowSeconds ∧
      info = windowInfo name limit windowSeconds now (pruned windowSeconds now (r (key tenantId name))) := by
  rw [inspected] at member
  rcases List.mem_pair.mp member with rfl | rfl
  · exact ⟨"minute",_,60,List.mem_cons_self,rfl,rfl⟩
  · exact ⟨"hour",_,3600,List.mem_cons_of_mem _ List.mem_cons_self,rfl,rfl⟩

theorem remaining_room (later : t ≤ u) (remaining : 0 < (windowInfo name limit windowSeconds t (pruned windowSeconds t z)).remaining) :
    ¬Full limit (pruned windowSeconds u (pruned windowSeconds t z)) := by
  intro full
  have fewer : (pruned windowSeconds u (pruned windowSeconds t z)).members.card ≤ (pruned windowSeconds t z).members.card := by
    rw [pruned_again later]
    exact Finset.card_le_card (pruned_shrinks later)
  have many := full.1
  unfold windowInfo ZSet.zcard at remaining
  unfold ZSet.zcard at many
  dsimp only at remaining
  omega

theorem nothing_remaining (positive : 1 ≤ limit)
    (remaining : (windowInfo name limit windowSeconds t (pruned windowSeconds t z)).remaining = 0) :
    Full limit (pruned windowSeconds t (pruned windowSeconds t z)) := by
  unfold windowInfo ZSet.zcard at remaining
  dsimp only at remaining
  have many : limit ≤ (pruned windowSeconds t z).members.card := by omega
  unfold Full ZSet.zcard
  rw [pruned_again le_rfl]
  exact ⟨many,Finset.card_pos.mp (by omega)⟩

-- In a history of reads a set never holds more than its limit.
def Bounded (settings : Settings) (tenantId : String) (r : Redis) : Prop :=
  ∀ name limit windowSeconds, (name,limit) ∈ settings.defaultLimits → windows name = some windowSeconds →
    (r (key tenantId name)).zcard ≤ limit

theorem pruned_card (windowSeconds now : Seconds) (z : ZSet) : (pruned windowSeconds now z).zcard ≤ z.zcard := by
  have fewer : (pruned windowSeconds now z).members ⊆ z.members := by
    rw [pruned_members,live_members]
    split
    · exact Finset.Subset.trans (Finset.filter_subset _ _) (Finset.empty_subset _)
    · exact Finset.filter_subset _ _
  exact Int.ofNat_le.mpr (Finset.card_le_card fewer)

theorem visited_bounded {next : ZSet} {answer : Answer} (visited : Visited name windowSeconds limit now z next answer)
    (positive : 1 ≤ limit) (bounded : z.zcard ≤ limit) : next.zcard ≤ limit := by
  cases visited with
  | unvisited => exact bounded
  | refused found =>
    obtain ⟨_,left,_⟩ := refused_checked found
    rw [left]
    exact (pruned_card windowSeconds now z).trans bounded
  | passed room _ =>
    rw [checkWindow_passes room]
    have few := room_card room positive
    have added : (insert now (pruned windowSeconds now z).members).card ≤ (pruned windowSeconds now z).members.card+1 :=
      Finset.card_insert_le _ _
    unfold ZSet.zcard at few
    unfold ZSet.zcard
    dsimp only
    omega

theorem read_visited (enabled : settings.rateLimitEnabled = true) (member : (name,limit) ∈ settings.defaultLimits)
    (window : windows name = some windowSeconds) (now : Seconds) (r : Redis) :
    Visited name windowSeconds limit now (r (key tenantId name)) ((checkLimit settings tenantId (read now) r).1 (key tenantId name))
      (checkLimit settings tenantId (read now) r).2 := by
  rw [checkLimit_enabled enabled]
  exact checkWindows_visited now r (limits_names settings (read now)).1 member window

theorem visited_denied {next : ZSet} {answer : Answer} (visited : Visited name windowSeconds limit now z next answer)
    (denied : answer = .denied name retry) :
    (checkWindow windowSeconds limit now z).2 = some retry ∧ next = pruned windowSeconds now z := by
  cases visited with
  | unvisited _ other => exact absurd denied (other retry)
  | refused found =>
    cases denied
    exact ⟨found,(refused_checked found).2.1⟩
  | passed _ other => exact absurd denied (other retry)

theorem reads_bounded (enabled : settings.rateLimitEnabled = true) (positive : ∀ item ∈ settings.defaultLimits, 1 ≤ item.2)
    (times : List Seconds) : Bounded settings tenantId (run settings tenantId (times.map read)).redis := by
  have kept : ∀ h : History, Bounded settings tenantId h.redis →
      Bounded settings tenantId ((times.map read).foldl (step settings tenantId) h).redis := by
    induction times with
    | nil => exact fun _ bounded => bounded
    | cons now rest ih =>
      intro h bounded
      refine ih _ fun name limit windowSeconds member window => ?_
      exact visited_bounded (read_visited enabled member window now h.redis) (positive _ member)
        (bounded name limit windowSeconds member window)
  refine kept .start fun name limit windowSeconds member _ => ?_
  have least := positive _ member
  have none : (History.start.redis (key tenantId name)).zcard = 0 := rfl
  omega

-- When the time is over the oldest entry has left the window.
theorem refused_until (bounded : z.zcard ≤ limit)
    (refused : (checkWindow windowSeconds limit t z).2 = some retry) :
    1 ≤ retry ∧ ∀ u : Seconds, (t : ℚ)+retry ≤ u → ¬Full limit (pruned windowSeconds u (pruned windowSeconds t z)) := by
  obtain ⟨_,_,oldest,member,rfl⟩ := refused_checked refused
  have reached : t < oldest+windowSeconds := by
    rw [pruned_members] at member
    exact (Finset.mem_filter.mp member).2
  have ahead : (0 : ℚ) ≤ (oldest : ℚ)+windowSeconds-t := by
    have cast : (t : ℚ) < (oldest : ℚ)+windowSeconds := by exact_mod_cast reached
    linarith
  have floor := truncate_nonneg ahead
  have beyond := lt_truncate_add_one ahead
  refine ⟨by unfold retryAfter; omega,fun u late full => ?_⟩
  unfold retryAfter at late
  push_cast at late
  have passed : oldest+windowSeconds ≤ u := by
    have cast : (oldest : ℚ)+windowSeconds ≤ u := by linarith
    exact_mod_cast cast
  have gone : oldest ∉ (pruned windowSeconds u z).members := by
    rw [pruned_members]
    exact fun there => absurd (Finset.mem_filter.mp there).2 passed.not_gt
  have later : t ≤ u := (reached.trans_le passed).le
  have fewer : (pruned windowSeconds u z).members.card < (pruned windowSeconds t z).members.card := by
    refine Finset.card_lt_card ((Finset.ssubset_iff_of_subset (pruned_shrinks later)).mpr ?_)
    exact ⟨oldest,member,gone⟩
  have most := pruned_card windowSeconds t z
  have many := full.1
  unfold ZSet.zcard at most many bounded
  rw [pruned_again later] at many
  omega

theorem remaining_allows (enabled : settings.rateLimitEnabled = true) (r : Redis)
    (remaining : ∀ info ∈ (getLimitInfo settings tenantId t r).2, 0 < info.remaining) (later : t ≤ u) :
    (checkLimit settings tenantId (read u) (getLimitInfo settings tenantId t r).1).2 = .allowed := by
  rw [checkLimit_enabled enabled,checkWindows_allowed _ _ (limits_names settings (read u)).1]
  rintro ⟨name,limit⟩ member
  obtain ⟨windowSeconds,window⟩ := Option.isSome_iff_exists.mp (default_known settings _ member)
  obtain ⟨left,reported⟩ := inspected_set tenantId t r member window
  refine ⟨windowSeconds,window,?_⟩
  dsimp only
  rw [left]
  exact remaining_room later (remaining _ reported)

theorem exhausted_denies (enabled : settings.rateLimitEnabled = true) (positive : ∀ item ∈ settings.defaultLimits, 1 ≤ item.2)
    (r : Redis) {info : Info} (reported : info ∈ (getLimitInfo settings tenantId t r).2) (none : info.remaining = 0) :
    ∃ name retry, (checkLimit settings tenantId (read t) (getLimitInfo settings tenantId t r).1).2 = .denied name retry := by
  obtain ⟨name,limit,windowSeconds,member,window,rfl⟩ := inspected_info t r reported
  refine read_denied enabled t _ fun allowed => ?_
  rw [checkLimit_enabled enabled,checkWindows_allowed _ _ (limits_names settings (read t)).1] at allowed
  obtain ⟨seconds,same,room⟩ := allowed _ member
  cases window.symm.trans same
  dsimp only at room
  rw [(inspected_set tenantId t r member window).1] at room
  exact room (nothing_remaining (positive _ member) none)

theorem denied_until (enabled : settings.rateLimitEnabled = true) (bounded : Bounded settings tenantId r)
    (denied : (checkLimit settings tenantId (read t) r).2 = .denied name retry) :
    1 ≤ retry ∧ ∀ u : Seconds, (t : ℚ)+retry ≤ u → ∀ again,
      (checkLimit settings tenantId (read u) (checkLimit settings tenantId (read t) r).1).2 ≠ .denied name again := by
  have source := denied
  rw [checkLimit_enabled enabled] at source
  obtain ⟨limit,windowSeconds,member,window⟩ := denied_listed _ r source
  obtain ⟨refused,left⟩ := visited_denied (read_visited enabled member window t r) denied
  obtain ⟨least,room⟩ := refused_until (bounded name limit windowSeconds member window) refused
  refine ⟨least,fun u late again repeated => ?_⟩
  obtain ⟨refused,_⟩ := visited_denied (read_visited enabled member window u _) repeated
  rw [left] at refused
  exact room u late (refused_checked refused).1

-- After any reads: what `get_limit_info` reports as remaining is what a read
-- finds, and a refusing window lets a read through once the time is over.
theorem advertised_sound (enabled : settings.rateLimitEnabled = true) (minute : 1 ≤ settings.rateLimitPerMinute)
    (hour : 1 ≤ settings.rateLimitPerHour) (times : List Seconds) (t : Seconds) :
    let r := (run settings tenantId (times.map read)).redis
    let reported := getLimitInfo settings tenantId t r
    let checked := checkLimit settings tenantId (read t) r
    ((∀ info ∈ reported.2, 0 < info.remaining) → ∀ u, t ≤ u → (checkLimit settings tenantId (read u) reported.1).2 = .allowed) ∧
    (∀ info ∈ reported.2, info.remaining = 0 →
      ∃ name retry, (checkLimit settings tenantId (read t) reported.1).2 = .denied name retry) ∧
    ∀ name retry, checked.2 = .denied name retry → 1 ≤ retry ∧ ∀ u : Seconds, (t : ℚ)+retry ≤ u →
      ∀ again, (checkLimit settings tenantId (read u) checked.1).2 ≠ .denied name again := by
  dsimp only
  have positive : ∀ item ∈ settings.defaultLimits, 1 ≤ item.2 := by
    intro item listed
    rcases List.mem_pair.mp listed with rfl | rfl
    · exact minute
    · exact hour
  have bounded : Bounded settings tenantId (run settings tenantId (times.map read)).redis := reads_bounded enabled positive times
  refine ⟨fun remaining u later => ?_,fun info reported none => ?_,fun name retry denied => ?_⟩
  · exact remaining_allows enabled _ remaining later
  · exact exhausted_denies enabled positive _ reported none
  · exact denied_until enabled bounded denied

def small : Settings := ⟨true,10,100⟩

def times (n : Nat) : List Seconds := (List.range n).map fun i => i+1

def ten : Redis := (run small "t1" ((times 10).map read)).redis

-- The eleventh read of a minute is refused until the first one is a minute old.
theorem advertised_sound_eleventh : (checkLimit small "t1" (read 11) ten).2 = .denied "minute" 51 ∧
    ∀ u : Seconds, ((11 : Seconds) : ℚ)+(51 : Int) ≤ u → ∀ again,
      (checkLimit small "t1" (read u) (checkLimit small "t1" (read 11) ten).1).2 ≠ .denied "minute" again := by
  have enabled : small.rateLimitEnabled = true := rfl
  have minute : 1 ≤ small.rateLimitPerMinute := by decide
  have hour : 1 ≤ small.rateLimitPerHour := by decide
  have denied : (checkLimit small "t1" (read 11) ten).2 = .denied "minute" 51 := by decide +kernel
  obtain ⟨_,_,sound⟩ := advertised_sound enabled minute hour (times 10) 11
  exact ⟨denied,(sound "minute" 51 denied).2⟩

end SmartParking.Api.Advertised
