import Mathlib.Data.Finset.Max
import Mathlib.Data.NNRat.Floor
import SmartParking.Lib.Rounding
import SmartParking.Lib.SlidingWindow

namespace SmartParking.Api.RateLimiter
open Lib.Rounding Lib.SlidingWindow

-- `time.time()` in seconds since the epoch, taken exactly.
abbrev Seconds := ℚ≥0

-- A Python dict from names to limits, in the order of insertion.
abbrev Dict := List (String × Int)

def Dict.set (d : Dict) (item : String × Int) : Dict :=
  if item.1 ∈ d.map (·.1) then d.map fun old => if old.1 = item.1 then item else old else d ++ [item]

def Dict.update (d : Dict) (items : Dict) : Dict := items.foldl Dict.set d

inductive OperationType where
  | read | write
  deriving DecidableEq

structure Settings where
  rateLimitEnabled : Bool
  rateLimitPerMinute : Int
  rateLimitPerHour : Int

def Settings.defaultLimits (settings : Settings) : Dict :=
  [("minute",settings.rateLimitPerMinute),("hour",settings.rateLimitPerHour)]

def windows (name : String) : Option Seconds :=
  if name = "minute" then some 60 else if name = "hour" then some 3600 else none

-- A sorted set whose members are their own scores, and the time its key is gone.
structure ZSet where
  members : Finset Seconds
  deadline : Option Seconds

def ZSet.empty : ZSet := ⟨∅,none⟩

-- Redis drops a key that has expired, and one whose set has become empty.
def ZSet.live (z : ZSet) (clock : Seconds) : ZSet := if z.deadline.any (· ≤ clock) then .empty else z

def ZSet.zremrangebyscore (z : ZSet) (low high : ℚ) : ZSet :=
  let left := z.members.filter fun m : Seconds => ¬(low ≤ (m : ℚ) ∧ (m : ℚ) ≤ high)
  if left = ∅ then .empty else {z with members := left}

def ZSet.zcard (z : ZSet) : Int := z.members.card

-- `zrange(key, 0, 0)`.
def ZSet.oldest (z : ZSet) : Option Seconds := z.members.min

def ZSet.zadd (z : ZSet) (m : Seconds) : ZSet := {z with members := insert m z.members}

def ZSet.expire (z : ZSet) (deadline : Seconds) : ZSet :=
  if z.members = ∅ then z else {z with deadline := some deadline}

abbrev Redis := String → ZSet

def key (tenantId windowName : String) : String := "rate_limit:" ++ tenantId ++ ":" ++ windowName

-- The call is refused by the named window, or its loop meets a window that does
-- not exist.
inductive Answer where
  | allowed
  | denied (windowName : String) (retryAfter : Int)
  | keyError (windowName : String)
  deriving DecidableEq

structure Call where
  now : Seconds
  operationType : OperationType
  customLimits : Option Dict := none

-- No custom limits and an empty dict are the same.
def Settings.limits (settings : Settings) (call : Call) : Dict :=
  let limits := match call.operationType with
    | .write => [("minute",10),("hour",100)]
    | .read => settings.defaultLimits
  Dict.update limits (call.customLimits.getD [])

def pruned (windowSeconds now : Seconds) (z : ZSet) : ZSet :=
  (z.live now).zremrangebyscore 0 ((now : ℚ)-windowSeconds)

def retryAfter (windowSeconds now oldest : Seconds) : Int := truncate ((oldest : ℚ)+windowSeconds-now)+1

def expiry (windowSeconds clock : Seconds) : Seconds := clock+(windowSeconds+60)

-- One pass of the loop: what is left of the set, and the answer if it is
-- refused. A limit below one is not enough to refuse when the set is empty.
def checkWindow (windowSeconds : Seconds) (limit : Int) (now : Seconds) (z : ZSet) : ZSet × Option Int :=
  let z := pruned windowSeconds now z
  match if limit ≤ z.zcard then z.oldest else none with
  | some oldest => (z,some (retryAfter windowSeconds now oldest))
  | none => ((z.zadd now).expire (expiry windowSeconds now),none)

def checkWindows (tenantId : String) (now : Seconds) : Dict → Redis → Redis × Answer
  | [],r => (r,.allowed)
  | (name,limit)::rest,r =>
    match windows name with
    | none => (r,.keyError name)
    | some windowSeconds =>
      let checked := checkWindow windowSeconds limit now (r (key tenantId name))
      let r := Function.update r (key tenantId name) checked.1
      match checked.2 with
      | some retryAfter => (r,.denied name retryAfter)
      | none => checkWindows tenantId now rest r

def checkLimit (settings : Settings) (tenantId : String) (call : Call) (r : Redis) : Redis × Answer :=
  if settings.rateLimitEnabled then checkWindows tenantId call.now (settings.limits call) r else (r,.allowed)

structure Info where
  windowName : String
  limit : Int
  current : Int
  remaining : Int
  resetAt : Seconds

def windowInfo (name : String) (limit : Int) (windowSeconds now : Seconds) (z : ZSet) : Info :=
  ⟨name,limit,z.zcard,max 0 (limit-z.zcard),now+windowSeconds⟩

def inspect (tenantId : String) (now : Seconds) : Dict → Redis → Redis × List Info
  | [],r => (r,[])
  | (name,limit)::rest,r =>
    match windows name with
    | none => (r,[])
    | some windowSeconds =>
      let z := pruned windowSeconds now (r (key tenantId name))
      let later := inspect tenantId now rest (Function.update r (key tenantId name) z)
      (later.1,windowInfo name limit windowSeconds now z::later.2)

def getLimitInfo (settings : Settings) (tenantId : String) (now : Seconds) (r : Redis) : Redis × List Info :=
  inspect tenantId now settings.defaultLimits r

-- A window refuses a call when its set is full.
def Full (limit : Int) (z : ZSet) : Prop := limit ≤ z.zcard ∧ z.members.Nonempty

-- What a call does to one of its windows: the loop has ended before it, or has
-- checked it with the limit the call has for it.
inductive Visited (name : String) (windowSeconds : Seconds) (limit : Int) (now : Seconds) (z : ZSet) :
    ZSet → Answer → Prop where
  | unvisited : answer ≠ .allowed → (∀ retry, answer ≠ .denied name retry) →
      Visited name windowSeconds limit now z z answer
  | refused {retry : Int} : (checkWindow windowSeconds limit now z).2 = some retry →
      Visited name windowSeconds limit now z (checkWindow windowSeconds limit now z).1 (.denied name retry)
  | passed : ¬Full limit (pruned windowSeconds now z) → (∀ retry, answer ≠ .denied name retry) →
      Visited name windowSeconds limit now z (checkWindow windowSeconds limit now z).1 answer

variable {settings : Settings} {tenantId name : String} {windowSeconds now later m : Seconds} {limit : Int}
  {items : Dict} {call : Call} {z : ZSet} {r : Redis} {answer : Answer}

theorem key_injective (tenantId : String) : Function.Injective (key tenantId) := by
  intro one two same
  have letters := congrArg String.toList same
  simpa [key,String.toList_inj] using letters

theorem update_apart {other : String} (apart : other ≠ name) (r : Redis) (z : ZSet) :
    Function.update r (key tenantId other) z (key tenantId name) = r (key tenantId name) :=
  Function.update_of_ne (fun same => apart (key_injective tenantId same).symm) _ _

theorem windows_cases (window : windows name = some windowSeconds) :
    name = "minute" ∧ windowSeconds = 60 ∨ name = "hour" ∧ windowSeconds = 3600 := by
  unfold windows at window
  split at window
  · exact .inl ⟨‹_›,(Option.some.inj window).symm⟩
  · split at window
    · exact .inr ⟨‹_›,(Option.some.inj window).symm⟩
    · cases window

theorem window_positive (window : windows name = some windowSeconds) : 0 < windowSeconds := by
  rcases windows_cases window with ⟨_,rfl⟩ | ⟨_,rfl⟩ <;> decide +kernel

theorem expiry_later (windowSeconds : Seconds) {m clock : Seconds} (before : m ≤ clock) :
    m+windowSeconds ≤ expiry windowSeconds clock := add_le_add before (le_add_of_nonneg_right zero_le)

theorem zremrangebyscore_members (z : ZSet) (low high : ℚ) : (z.zremrangebyscore low high).members =
    z.members.filter fun m : Seconds => ¬(low ≤ (m : ℚ) ∧ (m : ℚ) ≤ high) := by
  unfold ZSet.zremrangebyscore
  dsimp only
  split
  · exact Eq.symm ‹_›
  · rfl

theorem zadd_expire (z : ZSet) (m deadline : Seconds) :
    (z.zadd m).expire deadline = ⟨insert m z.members,some deadline⟩ := if_neg (Finset.insert_ne_empty _ _)

theorem pruned_members (windowSeconds now : Seconds) (z : ZSet) :
    (pruned windowSeconds now z).members = (z.live now).members.filter (now < ·+windowSeconds) := by
  rw [pruned,zremrangebyscore_members]
  refine Finset.filter_congr fun m _ => ?_
  have low : (0 : ℚ) ≤ m := m.coe_nonneg
  rw [and_iff_right low,not_le,sub_lt_iff_lt_add]
  exact_mod_cast Iff.rfl

theorem oldest_none (z : ZSet) : z.oldest = none ↔ ¬z.members.Nonempty := by
  rw [Finset.not_nonempty_iff_eq_empty]
  exact Finset.min_eq_top

theorem checkWindow_refuses (full : Full limit (pruned windowSeconds now z)) :
    ∃ oldest ∈ (pruned windowSeconds now z).members, (pruned windowSeconds now z).oldest = some oldest ∧
      checkWindow windowSeconds limit now z = (pruned windowSeconds now z,some (retryAfter windowSeconds now oldest)) := by
  unfold checkWindow
  dsimp only
  rw [if_pos full.1]
  cases found : (pruned windowSeconds now z).oldest with
  | none => exact absurd full.2 ((oldest_none _).mp found)
  | some oldest => exact ⟨oldest,Finset.mem_of_min found,rfl,rfl⟩

theorem checkWindow_passes (room : ¬Full limit (pruned windowSeconds now z)) : checkWindow windowSeconds limit now z =
    (⟨insert now (pruned windowSeconds now z).members,some (expiry windowSeconds now)⟩,none) := by
  have nothing : (if limit ≤ (pruned windowSeconds now z).zcard then (pruned windowSeconds now z).oldest else none) = none := by
    split
    · exact (oldest_none _).mpr fun nonempty => room ⟨‹_›,nonempty⟩
    · rfl
  unfold checkWindow
  dsimp only
  rw [nothing]
  dsimp only
  rw [zadd_expire]

theorem checkWindow_none : (checkWindow windowSeconds limit now z).2 = none ↔ ¬Full limit (pruned windowSeconds now z) := by
  by_cases full : Full limit (pruned windowSeconds now z)
  · obtain ⟨oldest,_,_,checked⟩ := checkWindow_refuses full
    rw [checked]
    exact iff_of_false nofun (not_not_intro full)
  · rw [checkWindow_passes full]
    exact iff_of_true rfl full

theorem refused_checked {retry : Int} (refused : (checkWindow windowSeconds limit now z).2 = some retry) :
    Full limit (pruned windowSeconds now z) ∧
      (checkWindow windowSeconds limit now z).1 = pruned windowSeconds now z ∧
      ∃ oldest ∈ (pruned windowSeconds now z).members, retry = retryAfter windowSeconds now oldest := by
  by_cases full : Full limit (pruned windowSeconds now z)
  · obtain ⟨oldest,member,_,checked⟩ := checkWindow_refuses full
    rw [checked] at refused ⊢
    exact ⟨full,rfl,oldest,member,(Option.some.inj refused).symm⟩
  · rw [checkWindow_none.mpr full] at refused
    cases refused

theorem room_card (room : ¬Full limit z) (positive : 1 ≤ limit) : z.zcard < limit := by
  by_cases nonempty : z.members.Nonempty
  · exact not_le.mp fun many => room ⟨many,nonempty⟩
  · have none : z.zcard = 0 := by rw [ZSet.zcard,Finset.not_nonempty_iff_eq_empty.mp nonempty,Finset.card_empty,Nat.cast_zero]
    omega

-- A window that is not among the items.
theorem checkWindows_apart (tenantId : String) (items : Dict) (now : Seconds) (r : Redis) (missing : name ∉ items.map (·.1)) :
    (checkWindows tenantId now items r).1 (key tenantId name) = r (key tenantId name) ∧
      ∀ retry, (checkWindows tenantId now items r).2 ≠ .denied name retry := by
  induction items generalizing r with
  | nil => exact ⟨rfl,nofun⟩
  | cons item rest ih =>
    obtain ⟨other,limit⟩ := item
    have apart : other ≠ name ∧ name ∉ rest.map (·.1) := by simpa [eq_comm] using missing
    unfold checkWindows
    split
    · exact ⟨rfl,nofun⟩
    · dsimp only
      split
      · refine ⟨update_apart apart.1 r _,fun _ same => apart.1 ?_⟩
        exact (Answer.denied.inj same).1
      · have tail := ih (Function.update r (key tenantId other) (checkWindow ‹_› limit now (r (key tenantId other))).1) apart.2
        rw [update_apart apart.1] at tail
        exact tail

theorem checkWindows_visited (now : Seconds) (r : Redis) (distinct : (items.map (·.1)).Nodup)
    (member : (name,limit) ∈ items) (window : windows name = some windowSeconds) :
    Visited name windowSeconds limit now (r (key tenantId name)) ((checkWindows tenantId now items r).1 (key tenantId name))
      (checkWindows tenantId now items r).2 := by
  induction items generalizing r with
  | nil => cases member
  | cons item rest ih =>
    obtain ⟨other,bound⟩ := item
    obtain ⟨missing,distinct⟩ := List.nodup_cons.mp distinct
    rcases List.mem_cons.mp member with first | listed
    · cases first
      rw [checkWindows,window]
      dsimp only
      cases refused : (checkWindow windowSeconds limit now (r (key tenantId name))).2 with
      | some retry =>
        dsimp only
        rw [Function.update_self]
        exact .refused refused
      | none =>
        dsimp only
        have rest := checkWindows_apart tenantId rest now
          (Function.update r (key tenantId name) (checkWindow windowSeconds limit now (r (key tenantId name))).1) missing
        rw [rest.1,Function.update_self]
        exact .passed (checkWindow_none.mp refused) rest.2
    · have apart : other ≠ name := by
        rintro rfl
        exact missing (List.mem_map.mpr ⟨_,listed,rfl⟩)
      unfold checkWindows
      split
      · exact .unvisited nofun nofun
      · dsimp only
        split
        · dsimp only
          rw [update_apart apart]
          exact .unvisited nofun fun _ same => apart (Answer.denied.inj same).1
        · have tail := ih (Function.update r (key tenantId other) (checkWindow ‹_› bound now (r (key tenantId other))).1)
            distinct listed
          rw [update_apart apart] at tail
          exact tail

-- A call is allowed when it has room in each of its windows, as they were
-- before it.
theorem checkWindows_allowed (now : Seconds) (r : Redis) (distinct : (items.map (·.1)).Nodup) :
    (checkWindows tenantId now items r).2 = .allowed ↔ ∀ item ∈ items, ∃ windowSeconds, windows item.1 = some windowSeconds ∧
      ¬Full item.2 (pruned windowSeconds now (r (key tenantId item.1))) := by
  induction items generalizing r with
  | nil => simp [checkWindows]
  | cons item rest ih =>
    obtain ⟨name,limit⟩ := item
    obtain ⟨missing,distinct⟩ := List.nodup_cons.mp distinct
    rw [List.forall_mem_cons]
    unfold checkWindows
    cases window : windows name with
    | none => simp
    | some windowSeconds =>
      dsimp only
      have room : (checkWindow windowSeconds limit now (r (key tenantId name))).2 = none ↔
          ¬Full limit (pruned windowSeconds now (r (key tenantId name))) := checkWindow_none
      cases refused : (checkWindow windowSeconds limit now (r (key tenantId name))).2 with
      | some retry =>
        rw [refused] at room
        have full := not_not.mp fun absent => nomatch room.mpr absent
        refine iff_of_false nofun fun both => ?_
        obtain ⟨seconds,same,spare⟩ := both.1
        cases same
        exact spare full
      | none =>
        dsimp only
        have spare := room.mp refused
        rw [ih _ distinct,and_iff_right ⟨windowSeconds,rfl,spare⟩]
        refine forall₂_congr fun item listed => ?_
        have apart : name ≠ item.1 := by
          rintro rfl
          exact missing (List.mem_map.mpr ⟨item,listed,rfl⟩)
        rw [update_apart apart]

theorem set_names (d : Dict) (item : String × Int) (distinct : (d.map (·.1)).Nodup) :
    ((d.set item).map (·.1)).Nodup ∧ ∀ name ∈ d.map (·.1), name ∈ (d.set item).map (·.1) := by
  unfold Dict.set
  split
  · have same : (d.map fun old => if old.1 = item.1 then item else old).map (·.1) = d.map (·.1) := by
      rw [List.map_map]
      refine List.map_congr_left fun old _ => ?_
      rw [Function.comp_apply]
      split
      · exact Eq.symm ‹_›
      · rfl
    rw [same]
    exact ⟨distinct,fun _ listed => listed⟩
  · rw [List.map_append]
    refine ⟨List.nodup_append.mpr ⟨distinct,List.nodup_singleton _,?_⟩,fun _ listed => List.mem_append_left _ listed⟩
    rintro one listed two last rfl
    cases List.mem_singleton.mp last
    contradiction

theorem update_names (d items : Dict) (distinct : (d.map (·.1)).Nodup) :
    ((d.update items).map (·.1)).Nodup ∧ ∀ name ∈ d.map (·.1), name ∈ (d.update items).map (·.1) := by
  induction items generalizing d with
  | nil => exact ⟨distinct,fun _ listed => listed⟩
  | cons item rest ih =>
    obtain ⟨still,kept⟩ := set_names d item distinct
    obtain ⟨last,later⟩ := ih (d.set item) still
    exact ⟨last,fun name listed => later name (kept name listed)⟩

theorem limits_names (settings : Settings) (call : Call) : ((settings.limits call).map (·.1)).Nodup ∧
    ∀ name ∈ ["minute","hour"], name ∈ (settings.limits call).map (·.1) := by
  have two : ∀ one two : Int, ((([("minute",one),("hour",two)] : Dict).map (·.1)) = ["minute","hour"]) := fun _ _ => rfl
  have distinct : ["minute","hour"].Nodup := by decide
  unfold Settings.limits
  cases call.operationType with
  | read =>
    dsimp only
    rw [← two settings.rateLimitPerMinute settings.rateLimitPerHour] at distinct ⊢
    exact update_names _ _ distinct
  | write =>
    dsimp only
    rw [← two 10 100] at distinct ⊢
    exact update_names _ _ distinct

theorem default_limits (minute : 1 ≤ settings.rateLimitPerMinute) (hour : 1 ≤ settings.rateLimitPerHour)
    (default : call.customLimits = none) : ∀ item ∈ settings.limits call, 1 ≤ item.2 ∧ (windows item.1).isSome := by
  unfold Settings.limits
  rw [default]
  cases call.operationType with
  | read =>
    intro item listed
    rcases List.mem_pair.mp listed with rfl | rfl
    · exact ⟨minute,rfl⟩
    · exact ⟨hour,rfl⟩
  | write =>
    intro item listed
    rcases List.mem_pair.mp listed with rfl | rfl <;> exact ⟨by decide,rfl⟩

end SmartParking.Api.RateLimiter
