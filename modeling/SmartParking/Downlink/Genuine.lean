import SmartParking.Downlink.Steps

namespace SmartParking.Downlink
open Lib

inductive CmdChange (s : State) (action : Action) (next : State) (key : CmdId) : Prop where
  | same : next.redis.cmd key = s.redis.cmd key → CmdChange s action next key
  | deleted (p : Nat) (a : EnqueueArgs) : s.producers p = .deleteCmd a key → .deleted key a ∈ next.events →
      next.redis.cmd key = .absent → CmdChange s action next key
  | cleaned (w : Nat) (cmd : DownlinkCommand) : s.workers w = .deleteCmd cmd ∨ s.workers w = .deleteDead cmd →
      cmd.id = key → next.redis.cmd key = .absent → CmdChange s action next key
  | expired (now : Time) : action = .tick now → next.redis = s.redis.advance now →
      next.redis.cmd key = .absent → CmdChange s action next key
  | enqueued (a : EnqueueArgs) : createdBy s.events key = none → createdBy next.events key = some a →
      next.redis.cmd key = (s.redis.cmd key).hset (a.command key s.redis.clock).mapping →
      CmdChange s action next key
  | retried (w : Nat) (reply : Reply) (cmd : DownlinkCommand) : action = .work w reply → s.workers w = .hset cmd →
      cmd.id = key → next.redis.cmd key = (s.redis.cmd key).hset cmd.retryMapping →
      CmdChange s action next key

theorem update_cmd (f : CmdId → CmdHash) (at' : CmdId) (h : CmdHash) (key : CmdId) :
    Function.update f at' h key = f key ∨ key = at' ∧ Function.update f at' h key = h := by
  by_cases same : key = at'
  · exact .inr ⟨same,by rw [same,Function.update_self]⟩
  · exact .inl (Function.update_of_ne same _ _)

theorem produced_cmd (before : s.producers p = pc)
    (produced : Produced s.redis p uuid (createdBy s.events uuid).isSome pc r events later) (key : CmdId) :
    CmdChange s action (s.put p (r,events,later)) key := by
  cases produced with
  | deleteCmd =>
    rename_i a existing
    rcases update_cmd s.redis.cmd existing .absent key with same | ⟨rfl,gone⟩
    · exact .same same
    · exact .deleted p a before List.mem_cons_self gone
  | hset named fresh =>
    rename_i a
    rcases update_cmd s.redis.cmd uuid ((s.redis.cmd uuid).hset (a.command uuid s.redis.clock).mapping) key with
      same | ⟨rfl,set⟩
    · exact .same same
    · have missing : createdBy s.events key = none := by simpa using fresh
      exact .enqueued a missing (by simp [State.put,createdBy]) set
  | expire => exact .same (congrFun (Redis.expire_cmd _ _) key)
  | _ => exact .same rfl

theorem worked_cmd (before : s.workers w = pc) (worked : Worked s.redis w pc r events later) (key : CmdId) :
    CmdChange s (.work w reply) (s.set w (r,events,later)) key := by
  cases worked with
  | deleteCmd =>
    rename_i cmd
    rcases update_cmd s.redis.cmd cmd.id .absent key with same | ⟨rfl,gone⟩
    · exact .same same
    · exact .cleaned w cmd (.inl before) rfl gone
  | deleteDead =>
    rename_i cmd
    rcases update_cmd s.redis.cmd cmd.id .absent key with same | ⟨rfl,gone⟩
    · exact .same same
    · exact .cleaned w cmd (.inr before) rfl gone
  | hset =>
    rename_i cmd
    rcases update_cmd s.redis.cmd cmd.id ((s.redis.cmd cmd.id).hset cmd.retryMapping) key with same | ⟨rfl,set⟩
    · exact .same same
    · exact .retried w reply cmd rfl before rfl set
  | _ => exact .same rfl

theorem step_cmd (stepped : Stepped s action next) (key : CmdId) : CmdChange s action next key := by
  cases stepped with
  | produce p uuid before produced => exact produced_cmd before produced key
  | work w reply before worked => exact worked_cmd before worked key
  | tick now order =>
    by_cases expired : (s.redis.cmdDeadline key).any (· ≤ now) = true
    · exact .expired now rfl rfl (by simp [Redis.advance,expired])
    · exact .same (by simp [Redis.advance,expired])
  | _ => exact .same rfl

-- What `mark_failure` leaves of a hash that was deleted under it.
def Bare (h : CmdHash) : Prop :=
  ∀ field, field ≠ .attempts → field ≠ .lastError → field ≠ .lastAttemptAt → h field = none

theorem bare_absent : Bare .absent := fun _ _ _ _ => rfl

theorem Bare.retry (bare : Bare h) (cmd : DownlinkCommand) : Bare (h.hset cmd.retryMapping) := by
  intro field attempts lastError lastAttemptAt
  have untouched : cmd.retryMapping field = none := by cases field <;> first | rfl | contradiction
  simp only [CmdHash.hset,untouched,Option.none_or]
  exact bare field attempts lastError lastAttemptAt

theorem Bare.decode (bare : Bare h) (decoded : h.decode key now = some cmd) :
    cmd.id = key ∧ cmd.deviceEui = "" := by
  obtain ⟨id,deviceEui,_⟩ := decode_parts decoded
  rw [bare .id (by decide) (by decide) (by decide)] at id
  rw [bare .deviceEui (by decide) (by decide) (by decide)] at deviceEui
  exact ⟨id,deviceEui⟩

-- In every state of every run a stored hash is the one its call wrote, up to the
-- fields of a retry, or has lost everything but these. Its numbers can be read.
structure Shaped (s : State) : Prop where
  readable : ∀ key, Readable (s.redis.cmd key)
  origin : ∀ key, (∃ a, createdBy s.events key = some a ∧ Genuine (s.redis.cmd key) key a) ∨ Bare (s.redis.cmd key)

theorem initial_shaped : Shaped State.initial :=
  ⟨fun _ => readable_absent,fun _ => .inr bare_absent⟩

theorem shaped_preserved (shaped : Shaped s) (stepped : Stepped s action next) : Shaped next := by
  constructor
  · intro key
    cases step_cmd stepped key with
    | same same => rw [same]; exact shaped.readable key
    | deleted _ _ _ _ gone | cleaned _ _ _ _ gone | expired _ _ _ gone => rw [gone]; exact readable_absent
    | enqueued a _ _ set => rw [set]; exact readable_enqueued _ _
    | retried _ _ cmd _ _ _ set => rw [set]; exact (shaped.readable key).retry cmd
  · intro key
    have keeps : ∀ {a}, createdBy s.events key = some a → createdBy next.events key = some a :=
      step_keeps_created stepped
    cases step_cmd stepped key with
    | same same =>
      rw [same]
      exact (shaped.origin key).imp_left fun ⟨a,created,genuine⟩ => ⟨a,keeps created,genuine⟩
    | deleted _ _ _ _ gone | cleaned _ _ _ _ gone | expired _ _ _ gone => rw [gone]; exact .inr bare_absent
    | enqueued a _ created set => rw [set]; exact .inl ⟨a,created,genuine_enqueued _ _ _ _⟩
    | retried _ _ cmd _ _ _ set =>
      rw [set]
      rcases shaped.origin key with ⟨a,created,genuine⟩ | bare
      · exact .inl ⟨a,keeps created,genuine.retry cmd⟩
      · exact .inr (bare.retry cmd)

theorem reached_shaped (path : Runs.Reached step meets State.initial s) : Shaped s :=
  path.invariant Shaped initial_shaped fun shaped _ ran => shaped_preserved shaped (step_sound ran)

theorem Shaped.genuine (shaped : Shaped s) (stored : s.redis.cmd key .deviceEui = some device) :
    ∃ a, createdBy s.events key = some a ∧ Genuine (s.redis.cmd key) key a ∧ a.deviceEui = device := by
  rcases shaped.origin key with ⟨a,created,genuine⟩ | bare
  · refine ⟨a,created,genuine,?_⟩
    rw [genuine.deviceEui] at stored
    exact Option.some.inj stored
  · rw [bare .deviceEui (by decide) (by decide) (by decide)] at stored
    cases stored

-- The command object a worker carries is what its call asked for, unless it was
-- read from a hash that had lost its fields: then it names no device.
def Authentic (events : List Event) (cmd : DownlinkCommand) : Prop :=
  (∃ a, createdBy events cmd.id = some a ∧ Carries cmd a) ∨ cmd.deviceEui = ""

theorem Carries.failed (carries : Carries cmd a) (error : String) (now : Time) :
    Carries (cmd.failed error now) a := by
  obtain ⟨deviceEui,tenantId,gatewayId,payload,fport,confirmed,contentHash⟩ := carries
  exact ⟨deviceEui,tenantId,gatewayId,payload,fport,confirmed,contentHash⟩

theorem Authentic.failed (authentic : Authentic events cmd) (error : String) (now : Time) :
    Authentic events (cmd.failed error now) :=
  authentic.imp_left fun ⟨a,created,carries⟩ => ⟨a,created,carries.failed error now⟩

theorem Shaped.decode (shaped : Shaped s) (decoded : (s.redis.cmd key).decode key now = some cmd) :
    cmd.id = key ∧ Authentic s.events cmd := by
  rcases shaped.origin key with ⟨a,created,genuine⟩ | bare
  · obtain ⟨same,carries⟩ := genuine.decode decoded
    exact ⟨same,.inl ⟨a,by rw [same,created],carries⟩⟩
  · obtain ⟨same,nowhere⟩ := bare.decode decoded
    exact ⟨same,.inr nowhere⟩

def Carried (s : State) : Prop := ∀ w cmd, (s.workers w).command = some cmd → Authentic s.events cmd

theorem carried_kept (carried : Carried s) (stepped : Stepped s action next)
    (known : (s.workers w).command = some cmd) : Authentic next.events cmd :=
  (carried w cmd known).imp_left fun ⟨a,created,carries⟩ => ⟨a,step_keeps_created stepped created,carries⟩

theorem carried_preserved (shaped : Shaped s) (carried : Carried s) (stepped : Stepped s action next) :
    Carried next := by
  intro v cmd holds
  cases step_worker stepped v with
  | same _ same => exact carried_kept carried stepped (same ▸ holds)
  | worked reply events _ worked _ =>
    rcases worked_command worked holds with old | ⟨old,error,now,known,rfl⟩ | ⟨key,_,decoded⟩
    · exact carried_kept carried stepped old
    · exact (carried_kept carried stepped known).failed error now
    · rcases (shaped.decode decoded).2 with ⟨a,created,carries⟩ | bare
      · exact .inl ⟨a,step_keeps_created stepped created,carries⟩
      · exact .inr bare
  | succeeding old before after =>
    rw [after] at holds
    cases holds
    exact carried_kept carried stepped (by rw [before]; rfl)
  | failing old error requeue before _ after =>
    rw [after,failing_command] at holds
    cases holds
    exact (carried_kept carried stepped (by rw [before]; rfl)).failed error _
  | switched later =>
    rcases later with after | after
    · rw [after] at holds
      cases holds
    · rw [after] at holds
      cases holds

theorem reached_carried (path : Runs.Reached step meets State.initial s) : Carried s :=
  path.invariantUnder Shaped Carried reached_shaped (fun _ _ holds => by cases holds)
    fun shaped carried _ ran => carried_preserved shaped carried (step_sound ran)

structure Faithful (cmd : DownlinkCommand) (a : EnqueueArgs) : Prop where
  deviceEui : cmd.deviceEui = a.deviceEui
  tenantId : cmd.tenantId = a.tenantId
  gatewayId : cmd.gatewayId = a.gatewayId
  payload : cmd.payload = a.payload
  fport : cmd.fport = a.fport
  confirmed : cmd.confirmed = a.confirmed
  contentHash : cmd.contentHash = a.contentHash

theorem orNone_of_ne {v : Option String} (named : v ≠ some "") : orNone v = v := by
  cases v with
  | none => rfl
  | some text =>
    have kept : text ≠ "" := fun empty => named (by rw [empty])
    simp [orNone,Option.filter,kept]

theorem Carries.faithful (carries : Carries cmd a) (named : a.gatewayId ≠ some "") : Faithful cmd a := by
  obtain ⟨deviceEui,tenantId,gatewayId,payload,fport,confirmed,contentHash⟩ := carries
  exact ⟨deviceEui,tenantId,gatewayId.trans (orNone_of_ne named),payload,fport,confirmed,contentHash⟩

-- `mark_failure` writes only into a hash that is still there, and no call names
-- the empty gateway, which is stored like none.
def hashKept (s : State) : Action → Bool
  | .work w _ =>
    match s.workers w with
    | .hset cmd => (s.redis.cmd cmd.id).present
    | _ => true
  | .call _ a => a.gatewayId ≠ some ""
  | _ => true

structure Whole (s : State) : Prop where
  stored : ∀ key, s.redis.cmd key = .absent ∨ ∃ a, createdBy s.events key = some a ∧ Genuine (s.redis.cmd key) key a
  calling : ∀ p a, (s.producers p).args = some a → a.gatewayId ≠ some ""
  called : ∀ key a, createdBy s.events key = some a → a.gatewayId ≠ some ""
  dequeued : ∀ cmd, .dequeued cmd ∈ s.events → ∃ a, createdBy s.events cmd.id = some a ∧ Faithful cmd a

theorem initial_whole : Whole State.initial :=
  ⟨fun _ => .inl rfl,nofun,nofun,fun _ member => absurd member List.not_mem_nil⟩

theorem whole_stored (whole : Whole s) (kept : hashKept s action = true) (stepped : Stepped s action next)
    (key : CmdId) :
    next.redis.cmd key = .absent ∨ ∃ a, createdBy next.events key = some a ∧ Genuine (next.redis.cmd key) key a := by
  have keeps : ∀ {a}, createdBy s.events key = some a → createdBy next.events key = some a :=
    step_keeps_created stepped
  cases step_cmd stepped key with
  | same same =>
    rw [same]
    exact (whole.stored key).imp_right fun ⟨a,created,genuine⟩ => ⟨a,keeps created,genuine⟩
  | deleted _ _ _ _ gone | cleaned _ _ _ _ gone | expired _ _ _ gone => exact .inl gone
  | enqueued a _ created set => rw [set]; exact .inr ⟨a,created,genuine_enqueued _ _ _ _⟩
  | retried w reply cmd equal before same set =>
    subst equal same
    have present : (s.redis.cmd cmd.id).present = true := by simpa [hashKept,before] using kept
    rcases whole.stored cmd.id with absent | ⟨a,created,genuine⟩
    · rw [absent] at present
      cases present
    · rw [set]
      exact .inr ⟨a,keeps created,genuine.retry cmd⟩

theorem whole_calling (whole : Whole s) (kept : hashKept s action = true) (stepped : Stepped s action next)
    (of : (next.producers p).args = some a) : a.gatewayId ≠ some "" := by
  rcases step_args stepped of with old | rfl
  · exact whole.calling p a old
  · simpa [hashKept] using kept

theorem whole_called (whole : Whole s) (stepped : Stepped s action next)
    (created : createdBy next.events key = some a) : a.gatewayId ≠ some "" := by
  cases step_created stepped key with
  | same same => exact whole.called key a (by rw [← same,created])
  | created p b _ _ now before _ _ =>
    rw [created] at now
    cases now
    exact whole.calling p a (by rw [before]; rfl)

theorem whole_preserved (whole : Whole s) (kept : hashKept s action = true) (stepped : Stepped s action next) :
    Whole next := by
  refine ⟨whole_stored whole kept stepped,fun p a => whole_calling whole kept stepped,
    fun key a => whole_called whole stepped,?_⟩
  intro cmd member
  rcases step_cause stepped member with old | ⟨w,key,_,present,decoded⟩
  · obtain ⟨a,created,faithful⟩ := whole.dequeued cmd old
    exact ⟨a,step_keeps_created stepped created,faithful⟩
  · rcases whole.stored key with absent | ⟨a,created,genuine⟩
    · rw [absent] at present
      cases present
    · obtain ⟨same,carries⟩ := genuine.decode decoded
      rw [same]
      exact ⟨a,step_keeps_created stepped created,carries.faithful (whole.called key a created)⟩

theorem dequeued_faithful (path : Runs.Reached step (fun s action => hashKept s action = true) State.initial s)
    (returned : .dequeued cmd ∈ s.events) : ∃ a, createdBy s.events cmd.id = some a ∧ Faithful cmd a := by
  have whole := path.invariant Whole initial_whole fun whole kept ran => whole_preserved whole kept (step_sound ran)
  exact whole.dequeued cmd returned

-- Two displays' worth of calls for the tests of this and later modules.
def free : EnqueueArgs := {deviceEui := "d1",payload := "01",fport := 15,tenantId := "t1"}
def occupied : EnqueueArgs := {free with payload := "02"}

def calling (p : Nat) (a : EnqueueArgs) (uuid : CmdId) (commands : Nat) : List Action :=
  .call p a::List.replicate commands (.produce p uuid)

def working (replies : List Reply) : List Action := replies.map (.work 0)

-- A command is read, refused once, stored again and read again.
def retrying : List Action :=
  calling 0 free "A" 7 ++ .start 0::working [.ok,.ok,.ok,.refused "timeout",.ok,.ok,.ok,.ok,.ok]

def retried : DownlinkCommand :=
  {free.command "A" 0 with attempts := 1,lastError := some "timeout",lastAttemptAt := some 0}

theorem dequeued_faithful_retried :
    ∃ (s : State) (a : EnqueueArgs), .dequeued retried ∈ s.events ∧ createdBy s.events retried.id = some a ∧ Faithful retried a := by
  have start : Runs.Reached step (fun s action => hashKept s action = true) State.initial State.initial := .refl
  obtain ⟨s,path,member⟩ := start.found hashKept (fun s => .dequeued retried ∈ s.events) retrying
    (fun _ test => test) (by decide +kernel)
  obtain ⟨a,created,faithful⟩ := dequeued_faithful path member
  exact ⟨s,a,member,created,faithful⟩

-- A later call for the device deletes the hash of a command that a worker is
-- sending; the send fails and `mark_failure` writes its three fields into nothing.
def emptied : DownlinkCommand :=
  {retried with deviceEui := "",tenantId := "",payload := "",contentHash := ""}

theorem dequeued_emptied : ∃ s, Runs.Reached step (fun _ _ => True) State.initial s ∧
    .dequeued emptied ∈ s.events ∧ createdBy s.events emptied.id = some free ∧ ¬Faithful emptied free := by
  have start : Runs.Reached step (fun _ _ => True) State.initial State.initial := .refl
  obtain ⟨s,path,member,created⟩ := start.found (fun _ _ => true)
    (fun s => .dequeued emptied ∈ s.events ∧ createdBy s.events emptied.id = some free)
    (calling 0 free "A" 7 ++ .start 0::working [.ok,.ok,.ok] ++ calling 1 occupied "B" 4 ++
      working [.refused "timeout",.ok,.ok,.ok,.ok,.ok]) (fun _ _ => trivial) (by decide +kernel)
  exact ⟨s,path,member,created,fun faithful => absurd faithful.deviceEui (by decide)⟩

end SmartParking.Downlink
