import SmartParking.Lib.Rounding
import SmartParking.Lib.TokenBucket

namespace SmartParking.Downlink.RateLimiter
open Lib.Rounding Lib.TokenBucket

-- `time.time()` in seconds, taken exactly.
abbrev Seconds := ℚ

def defaultGatewayLimitPerMin : Int := 30

def defaultTenantLimitPerMin : Int := 100

-- The hash at a bucket's key and the time its key is gone. Its two fields are
-- written together.
structure BucketHash where
  tokens : ℚ
  lastUpdate : Seconds
  deadline : Seconds
  deriving DecidableEq

structure Answer where
  allowed : Bool
  retryAfter : Option Int
  deriving DecidableEq

-- What the HGETs find.
def found (stored : Option BucketHash) (now : Seconds) : Option BucketHash := stored.filter (now < ·.deadline)

def newTokens (limitPerMin : Int) (stored : Option BucketHash) (now : Seconds) : ℚ :=
  let tokensPerSecond : ℚ := limitPerMin/60
  let maxTokens : ℚ := limitPerMin
  let currentTokens := (found stored now).elim maxTokens (·.tokens)
  let lastUpdate := (found stored now).elim now (·.lastUpdate)
  min maxTokens (currentTokens+(now-lastUpdate)*tokensPerSecond)

-- A refused call writes nothing.
def checkTokenBucket (limitPerMin : Int) (stored : Option BucketHash) (now : Seconds) : Answer × Option BucketHash :=
  let tokens := newTokens limitPerMin stored now
  if 1 ≤ tokens then (⟨true,none⟩,some ⟨tokens-1,now,now+120⟩)
  else (⟨false,some (truncate ((1-tokens)/((limitPerMin : ℚ)/60))+1)⟩,stored)

-- `limit_per_min or DEFAULT`: a limit of zero is as good as none.
def limitOr (limitPerMin : Option Int) (default : Int) : Int := (limitPerMin.filter (· ≠ 0)).getD default

-- The buckets by their keys.
abbrev Buckets := String → Option BucketHash

def checkKey (buckets : Buckets) (key : String) (limit : Int) (now : Seconds) : Answer × Buckets :=
  let checked := checkTokenBucket limit (buckets key) now
  (checked.1,Function.update buckets key checked.2)

def gatewayKey (gatewayId : String) : String := "dl:limit:gw:" ++ gatewayId

def tenantKey (tenantId : String) : String := "dl:limit:tenant:" ++ tenantId

def checkGatewayLimit (buckets : Buckets) (gatewayId : String) (limitPerMin : Option Int) (now : Seconds) :
    Answer × Buckets :=
  if gatewayId = "" then (⟨true,none⟩,buckets)
  else checkKey buckets (gatewayKey gatewayId) (limitOr limitPerMin defaultGatewayLimitPerMin) now

def checkTenantLimit (buckets : Buckets) (tenantId : String) (limitPerMin : Option Int) (now : Seconds) :
    Answer × Buckets :=
  checkKey buckets (tenantKey tenantId) (limitOr limitPerMin defaultTenantLimitPerMin) now

-- Calls on one key, one after the other.
def after (limitPerMin : Int) (stored : Option BucketHash) (times : List Seconds) : Option BucketHash :=
  times.foldl (fun stored now => (checkTokenBucket limitPerMin stored now).2) stored

def answers (limitPerMin : Int) : Option BucketHash → List Seconds → List Answer
  | _,[] => []
  | stored,now::rest =>
    (checkTokenBucket limitPerMin stored now).1::answers limitPerMin (checkTokenBucket limitPerMin stored now).2 rest

def allowedTimes (limitPerMin : Int) : Option BucketHash → List Seconds → List Seconds
  | _,[] => []
  | stored,now::rest =>
    if (checkTokenBucket limitPerMin stored now).1.allowed then
      now::allowedTimes limitPerMin (checkTokenBucket limitPerMin stored now).2 rest
    else allowedTimes limitPerMin (checkTokenBucket limitPerMin stored now).2 rest

-- The bucket the limiter stands for: it never forgets.
def ideal (limitPerMin : Int) : Bucket ℚ := ⟨limitPerMin,limitPerMin/60⟩

-- From some time on, what is stored gives the level of the ideal bucket.
def Follows (limitPerMin : Int) (stored : Option BucketHash) (l : Level ℚ) : Prop :=
  ∀ now, l.since ≤ now → newTokens limitPerMin stored now = (ideal limitPerMin).refill l now

variable {limit : Int} {stored : Option BucketHash} {l : Level ℚ} {now start stop : Seconds} {times : List Seconds}

theorem ideal_rate (positive : 1 ≤ limit) : 0 < (ideal limit).rate := by
  have limited : (1 : ℚ) ≤ limit := by exact_mod_cast positive
  unfold ideal
  positivity

theorem newTokens_none (limit : Int) (now : Seconds) : newTokens limit none now = limit := by
  simp [newTokens,found]

theorem check_allows (enough : 1 ≤ newTokens limit stored now) : checkTokenBucket limit stored now =
    (⟨true,none⟩,some ⟨newTokens limit stored now-1,now,now+120⟩) := if_pos enough

theorem check_refuses (short : ¬1 ≤ newTokens limit stored now) : checkTokenBucket limit stored now =
    (⟨false,some (truncate ((1-newTokens limit stored now)/((limit : ℚ)/60))+1)⟩,stored) := if_neg short

theorem missing_follows (positive : 1 ≤ limit) (start : Seconds) : Follows limit none ⟨limit,start⟩ := by
  intro now later
  rw [newTokens_none,Bucket.refill_full (ideal_rate positive).le le_rfl later]
  rfl

-- After two minutes the bucket is full again, so nothing is lost with its key.
theorem written_follows (positive : 1 ≤ limit) (tokens : 0 ≤ left) (now : Seconds) :
    Follows limit (some ⟨left,now,now+120⟩) ⟨left,now⟩ := by
  intro later after
  by_cases kept : later < now+120
  · have there : found (some ⟨left,now,now+120⟩) later = some ⟨left,now,now+120⟩ := by simp [found,Option.filter,kept]
    simp only [newTokens,there,Option.elim_some,Bucket.refill,ideal]
    rw [mul_comm]
  · have gone : found (some ⟨left,now,now+120⟩) later = none := by simp [found,Option.filter,kept]
    have limited : (1 : ℚ) ≤ limit := by exact_mod_cast positive
    have full : (limit : ℚ) ≤ left+limit/60*(later-now) := by
      have waited : 120 ≤ later-now := by linarith [not_lt.mp kept]
      have gained : (limit : ℚ)/60*120 ≤ limit/60*(later-now) := mul_le_mul_of_nonneg_left waited (by positivity)
      linarith
    simp only [newTokens,gone,Option.elim_none,Bucket.refill,ideal]
    rw [sub_self,zero_mul,add_zero,min_self,min_eq_left full]

theorem check_follows (positive : 1 ≤ limit) (follows : Follows limit stored l) (later : l.since ≤ now) :
    (checkTokenBucket limit stored now).1.allowed = (ideal limit).allows l now ∧
      Follows limit (checkTokenBucket limit stored now).2 ((ideal limit).take l now) := by
  have level := follows now later
  by_cases allowed : 1 ≤ newTokens limit stored now
  · have allows : (ideal limit).allows l now = true := decide_eq_true (level ▸ allowed)
    rw [check_allows allowed,allows,Bucket.take,if_pos allows,← level]
    exact ⟨rfl,written_follows positive (sub_nonneg.mpr allowed) now⟩
  · have refuses : ¬(ideal limit).allows l now = true := by
      rw [Bucket.allows,decide_eq_true_iff,← level]
      exact allowed
    rw [check_refuses allowed,Bucket.take,if_neg refuses]
    refine ⟨(Bool.eq_false_of_not_eq_true refuses).symm,fun time after => ?_⟩
    rw [follows time (later.trans after),Bucket.refill_refill (ideal_rate positive).le after]

theorem answers_follow (positive : 1 ≤ limit) (follows : Follows limit stored l)
    (ordered : (l.since::times).Pairwise (· ≤ ·)) :
    (answers limit stored times).map (·.allowed) = (ideal limit).answers l times ∧
      allowedTimes limit stored times = (ideal limit).admitted l times := by
  induction times generalizing stored l with
  | nil => exact ⟨rfl,rfl⟩
  | cons now rest ih =>
    obtain ⟨later,ordered⟩ := List.pairwise_cons.mp ordered
    obtain ⟨same,next⟩ := check_follows positive follows (later now List.mem_cons_self)
    have since : ((ideal limit).take l now).since = now := Bucket.take_since _ l now
    obtain ⟨allowed,times⟩ := ih next (since.symm ▸ ordered)
    constructor
    · rw [answers,List.map_cons,same,allowed,Bucket.answers]
    · rw [allowedTimes,same,times,Bucket.admitted]

-- The answers are those of the ideal bucket, and so no interval has more allowed
-- calls than a full bucket and its refill give.
theorem token_bucket_bound (positive : 1 ≤ limit) (ordered : (start::times).Pairwise (· ≤ ·)) :
    (answers limit none times).map (·.allowed) = (ideal limit).answers ⟨limit,start⟩ times ∧
      ∀ first T : ℚ, 0 ≤ T →
        ((allowedTimes limit none times).countP (fun t => first ≤ t ∧ t ≤ first+T) : ℚ) ≤ limit+limit*T/60 := by
  obtain ⟨same,allowed⟩ := answers_follow positive (missing_follows positive start) ordered
  refine ⟨same,fun first T length => ?_⟩
  have limited : (0 : ℚ) ≤ limit := by exact_mod_cast (Int.zero_le_ofNat 1).trans positive
  have bound := Bucket.admitted_between (ideal_rate positive).le (b := ideal limit) (l := ⟨limit,start⟩) limited limited
    ordered (le_add_of_nonneg_right length : first ≤ first+T)
  rw [allowed]
  refine bound.trans (le_of_eq ?_)
  rw [ideal,add_sub_cancel_left]
  ring

-- A minute's burst of two, then one token in thirty seconds; after the key has
-- expired the bucket is full again.
theorem token_bucket_bound_two :
    (answers 2 none [0,0,0,30,200,200,200]).map (·.allowed) = [true,true,false,true,true,true,false] ∧
      (answers 2 none [0,0,0,30,200,200,200]).map (·.allowed) =
        (ideal 2).answers ⟨2,0⟩ [0,0,0,30,200,200,200] ∧
      ((allowedTimes 2 none [0,0,0,30,200,200,200]).countP (fun t => (0 : ℚ) ≤ t ∧ t ≤ 0+30) : ℚ) ≤ (2 : Int)+(2 : Int)*30/60 := by
  have ordered : ((0 : ℚ)::[0,0,0,30,200,200,200]).Pairwise (· ≤ ·) := by decide +kernel
  have positive : (1 : Int) ≤ 2 := by decide
  obtain ⟨same,bound⟩ := token_bucket_bound positive ordered
  exact ⟨by decide +kernel,same,bound 0 30 (by norm_num)⟩

theorem after_append (limit : Int) (stored : Option BucketHash) (earlier later : List Seconds) :
    after limit stored (earlier ++ later) = after limit (after limit stored earlier) later := List.foldl_append

def Denied (answer : Answer) : Prop := answer.allowed = false

theorem after_denied (denied : ∀ answer ∈ answers limit stored times, Denied answer) : after limit stored times = stored := by
  induction times generalizing stored with
  | nil => rfl
  | cons now rest ih =>
    obtain ⟨first,later⟩ := List.forall_mem_cons.mp denied
    by_cases enough : 1 ≤ newTokens limit stored now
    · rw [check_allows enough] at first
      cases first
    · rw [check_refuses enough] at later
      have kept := ih later
      rwa [after,List.foldl_cons,check_refuses enough]

theorem after_follows (positive : 1 ≤ limit) (follows : Follows limit stored l)
    (ordered : (l.since::times).Pairwise (· ≤ ·)) :
    ∃ level, Follows limit (after limit stored times) level ∧ ∀ now, (∀ t ∈ l.since::times, t ≤ now) → level.since ≤ now := by
  induction times generalizing stored l with
  | nil => exact ⟨l,follows,fun now last => last _ List.mem_cons_self⟩
  | cons t rest ih =>
    obtain ⟨later,ordered⟩ := List.pairwise_cons.mp ordered
    have next := (check_follows positive follows (later t List.mem_cons_self)).2
    have since : ((ideal limit).take l t).since = t := Bucket.take_since _ l t
    obtain ⟨level,follows,last⟩ := ih next (since.symm ▸ ordered)
    refine ⟨level,follows,fun now latest => last now ?_⟩
    rw [since]
    exact (List.forall_mem_cons.mp latest).2

theorem reached_follows (positive : 1 ≤ limit) (ordered : times.Pairwise (· ≤ ·)) (latest : ∀ t ∈ times, t ≤ now) :
    ∃ level, Follows limit (after limit none times) level ∧ level.since ≤ now := by
  cases times with
  | nil => exact ⟨⟨limit,now⟩,missing_follows positive now,le_rfl⟩
  | cons first rest =>
    have begun : (first::first::rest).Pairwise (· ≤ ·) :=
      List.pairwise_cons.mpr ⟨List.forall_mem_cons.mpr ⟨le_rfl,(List.pairwise_cons.mp ordered).1⟩,ordered⟩
    obtain ⟨level,follows,last⟩ := after_follows positive (missing_follows positive first) begun
    exact ⟨level,follows,last now (List.forall_mem_cons.mpr ⟨(List.forall_mem_cons.mp latest).1,latest⟩)⟩

-- The wait that is announced, and the part of a token that is missing.
theorem denied_wait {t : Seconds} {r : Int} (positive : 1 ≤ limit)
    (denied : (checkTokenBucket limit stored t).1 = ⟨false,some r⟩) :
    (checkTokenBucket limit stored t).2 = stored ∧ 1 ≤ r ∧
      (1-newTokens limit stored t)/(ideal limit).rate < r ∧ (r : ℚ)-1 ≤ (1-newTokens limit stored t)/(ideal limit).rate := by
  by_cases enough : 1 ≤ newTokens limit stored t
  · rw [check_allows enough] at denied
    cases denied
  · rw [check_refuses enough] at denied
    obtain rfl := Option.some.inj (congrArg Answer.retryAfter denied)
    have missing : 0 ≤ (1-newTokens limit stored t)/((limit : ℚ)/60) :=
      div_nonneg (sub_nonneg.mpr (not_le.mp enough).le) (ideal_rate positive).le
    refine ⟨by rw [check_refuses enough],by linarith [truncate_nonneg missing],?_,?_⟩
    · push_cast
      exact lt_truncate_add_one missing
    · push_cast
      rw [add_sub_cancel_right]
      exact truncate_le missing

-- As long as only refused calls come between, the bucket allows the next call
-- once the refused one's wait is over, and not a whole second sooner.
theorem retry_after_exact {earlier between : List Seconds} {t u : Seconds} {r : Int} (positive : 1 ≤ limit)
    (ordered : (earlier ++ t::(between ++ [u])).Pairwise (· ≤ ·))
    (denied : (checkTokenBucket limit (after limit none earlier) t).1 = ⟨false,some r⟩)
    (quiet : ∀ answer ∈ answers limit (after limit none (earlier ++ [t])) between, Denied answer) :
    1 ≤ r ∧ (t+r ≤ u → (checkTokenBucket limit (after limit none (earlier ++ t::between)) u).1.allowed = true) ∧
      (u < t+r-1 → (checkTokenBucket limit (after limit none (earlier ++ t::between)) u).1.allowed = false) := by
  obtain ⟨before,following,across⟩ := List.pairwise_append.mp ordered
  have later : t ≤ u := (List.pairwise_cons.mp following).1 u (by simp)
  obtain ⟨unwritten,least,enough,under⟩ := denied_wait positive denied
  have first : after limit none (earlier ++ [t]) = after limit none earlier := by
    rw [after_append]
    exact unwritten
  have same : after limit none (earlier ++ t::between) = after limit none earlier := by
    have rest := after_denied quiet
    rw [first] at rest
    have split : earlier ++ t::between = (earlier ++ [t]) ++ between := by simp
    rw [split,after_append,first]
    exact rest
  obtain ⟨level,follows,since⟩ := reached_follows positive before (fun e listed => across e listed t List.mem_cons_self)
  have limited : (1 : ℚ) ≤ limit := by exact_mod_cast positive
  have exact : (ideal limit).allows level u = true ↔ (1-newTokens limit (after limit none earlier) t)/(ideal limit).rate ≤ u-t := by
    rw [follows t since]
    exact Bucket.allows_exact (ideal_rate positive) limited later
  rw [same,(check_follows positive follows (since.trans later)).1]
  refine ⟨least,fun waited => exact.mpr ?_,fun early => Bool.eq_false_of_not_eq_true fun allowed => ?_⟩
  · linarith
  · linarith [exact.mp allowed]

-- Two tokens a minute, both taken at once: the next call is told to wait 31
-- seconds, one more is refused meanwhile, and so it is after 29.
theorem retry_after_exact_two :
    (checkTokenBucket 2 (after 2 none [0,0]) 0).1 = ⟨false,some 31⟩ ∧
      (1 ≤ (31 : Int) ∧ ((0 : ℚ)+(31 : Int) ≤ 29 → (checkTokenBucket 2 (after 2 none ([0,0] ++ 0::[10])) 29).1.allowed = true) ∧
        ((29 : ℚ) < 0+(31 : Int)-1 → (checkTokenBucket 2 (after 2 none ([0,0] ++ 0::[10])) 29).1.allowed = false)) := by
  have denied : (checkTokenBucket 2 (after 2 none [0,0]) 0).1 = ⟨false,some 31⟩ := by decide +kernel
  have quiet : ∀ answer ∈ answers 2 (after 2 none ([0,0] ++ [0])) [10], answer.allowed = false := by decide +kernel
  exact ⟨denied,retry_after_exact (by decide) (by decide +kernel) denied quiet⟩

end SmartParking.Downlink.RateLimiter
