import SmartParking.Lib.Dict
import SmartParking.Uplink.Webhook

namespace SmartParking.Uplink.Handlers
open Lib

-- Handlers of any kind, told by their lists of profiles, which do not change.
variable {Handler : Type} (deviceProfiles : Handler → List String)

-- `BaseDeviceHandler.can_handle`
def canHandle (handler : Handler) (deviceProfile : String) : Bool :=
  if deviceProfile = "" then false else (deviceProfiles handler).contains deviceProfile

structure DeviceHandlerRegistry (Handler : Type) where
  handlers : List Handler
  profileCache : Dict String Handler

namespace DeviceHandlerRegistry

def new : DeviceHandlerRegistry Handler := ⟨[],Dict.empty⟩

def register (g : DeviceHandlerRegistry Handler) (handler : Handler) : DeviceHandlerRegistry Handler :=
  {g with handlers := g.handlers ++ [handler]}

def getHandler (g : DeviceHandlerRegistry Handler) (deviceProfile : String) :
    Option Handler × DeviceHandlerRegistry Handler :=
  if deviceProfile = "" then (none,g)
  else
    match g.profileCache.get? deviceProfile with
    | some handler => (some handler,g)
    | none =>
      match g.handlers.find? (canHandle deviceProfiles · deviceProfile) with
      | some handler => (some handler,{g with profileCache := g.profileCache.set deviceProfile handler})
      | none => (none,g)

end DeviceHandlerRegistry

inductive RegistryCall (Handler : Type) where
  | register (handler : Handler)
  | getHandler (deviceProfile : String)

namespace RegistryCall

def apply (g : DeviceHandlerRegistry Handler) : RegistryCall Handler → DeviceHandlerRegistry Handler
  | .register handler => g.register handler
  | .getHandler deviceProfile => (g.getHandler deviceProfiles deviceProfile).2

def registers : RegistryCall Handler → Option Handler
  | .register handler => some handler
  | .getHandler _ => none

end RegistryCall

-- The registry a sequence of calls leaves, and the handlers it has registered.
def after (calls : List (RegistryCall Handler)) : DeviceHandlerRegistry Handler :=
  calls.foldl (RegistryCall.apply deviceProfiles) DeviceHandlerRegistry.new

def registered (calls : List (RegistryCall Handler)) : List Handler := calls.filterMap RegistryCall.registers

-- The search without a cache.
def search (handlers : List Handler) (deviceProfile : String) : Option Handler :=
  handlers.find? (canHandle deviceProfiles · deviceProfile)

variable {deviceProfiles}

theorem canHandle_iff {handler : Handler} {deviceProfile : String} :
    canHandle deviceProfiles handler deviceProfile = true ↔
      deviceProfile ≠ "" ∧ deviceProfile ∈ deviceProfiles handler := by
  unfold canHandle
  split
  · rename_i empty
    exact ⟨fun wrong => (by cases wrong),fun present => absurd empty present.1⟩
  · rename_i present
    exact ⟨fun listed => ⟨present,List.contains_iff_mem.mp listed⟩,fun listed => List.contains_iff_mem.mpr listed.2⟩

-- A later registration does not take a profile from the handler that was found
-- for it.
theorem search_append {handlers : List Handler} {deviceProfile : String} {handler : Handler} (more : List Handler)
    (found : search deviceProfiles handlers deviceProfile = some handler) :
    search deviceProfiles (handlers ++ more) deviceProfile = some handler := by
  unfold search at found ⊢
  rw [List.find?_append,found]
  rfl

-- Every cached handler is the one that a search now finds. Profiles without a
-- handler are not cached, so a later registration may serve them.
def Current (deviceProfiles : Handler → List String) (g : DeviceHandlerRegistry Handler) : Prop :=
  ∀ deviceProfile handler, g.profileCache.get? deviceProfile = some handler →
    search deviceProfiles g.handlers deviceProfile = some handler

theorem getHandler_search {g : DeviceHandlerRegistry Handler} (current : Current deviceProfiles g)
    (deviceProfile : String) :
    (g.getHandler deviceProfiles deviceProfile).1 = search deviceProfiles g.handlers deviceProfile := by
  unfold DeviceHandlerRegistry.getHandler
  split
  · rename_i empty
    refine (List.find?_eq_none.mpr fun handler _ handles => ?_).symm
    exact (canHandle_iff.mp handles).1 empty
  · split
    · rename_i handler cached
      exact (current deviceProfile handler cached).symm
    · split
      · rename_i handler found
        exact found.symm
      · rename_i missed
        exact missed.symm

theorem apply_current {g : DeviceHandlerRegistry Handler} (current : Current deviceProfiles g)
    (call : RegistryCall Handler) : Current deviceProfiles (call.apply deviceProfiles g) := by
  cases call with
  | register handler =>
    intro deviceProfile cached held
    exact search_append [handler] (current deviceProfile cached held)
  | getHandler deviceProfile =>
    unfold RegistryCall.apply DeviceHandlerRegistry.getHandler
    dsimp only
    split
    · exact current
    · split
      · exact current
      · split
        · rename_i handler found
          intro other cached held
          change (g.profileCache.set deviceProfile handler).get? other = some cached at held
          rw [Dict.get?_set] at held
          split at held
          · rename_i same
            cases Option.some.inj held
            rw [same]
            exact found
          · exact current other cached held
        · exact current

theorem apply_handlers (g : DeviceHandlerRegistry Handler) (call : RegistryCall Handler) :
    (call.apply deviceProfiles g).handlers = g.handlers ++ call.registers.toList := by
  cases call with
  | register handler => rfl
  | getHandler deviceProfile =>
    unfold RegistryCall.apply DeviceHandlerRegistry.getHandler
    dsimp only
    rw [RegistryCall.registers,Option.toList_none,List.append_nil]
    split
    · rfl
    · split
      · rfl
      · split <;> rfl

-- Induction on the calls: the cache stays current while the list grows.
theorem foldl_apply {g : DeviceHandlerRegistry Handler} (current : Current deviceProfiles g)
    (calls : List (RegistryCall Handler)) :
    Current deviceProfiles (calls.foldl (RegistryCall.apply deviceProfiles) g) ∧
      (calls.foldl (RegistryCall.apply deviceProfiles) g).handlers = g.handlers ++ registered calls := by
  induction calls generalizing g with
  | nil => exact ⟨current,(List.append_nil _).symm⟩
  | cons call rest ih =>
    obtain ⟨kept,handlers⟩ := ih (apply_current current call)
    refine ⟨kept,?_⟩
    rw [List.foldl_cons,handlers,apply_handlers,List.append_assoc]
    unfold registered
    rw [List.filterMap_cons]
    cases call.registers <;> rfl

-- The first of the handlers that lists the profile, if there is one and the
-- profile is not empty.
def First (deviceProfiles : Handler → List String) (handlers : List Handler) (deviceProfile : String) :
    Option Handler → Prop
  | some handler => deviceProfile ≠ "" ∧ ∃ before later, handlers = before ++ handler::later ∧
      deviceProfile ∈ deviceProfiles handler ∧ ∀ other ∈ before, deviceProfile ∉ deviceProfiles other
  | none => deviceProfile = "" ∨ ∀ handler ∈ handlers, deviceProfile ∉ deviceProfiles handler

theorem search_first (handlers : List Handler) (deviceProfile : String) :
    First deviceProfiles handlers deviceProfile (search deviceProfiles handlers deviceProfile) := by
  by_cases empty : deviceProfile = ""
  · have missed : search deviceProfiles handlers deviceProfile = none :=
      List.find?_eq_none.mpr fun handler _ handles => (canHandle_iff.mp handles).1 empty
    rw [missed]
    exact .inl empty
  · cases found : search deviceProfiles handlers deviceProfile with
    | none =>
      refine .inr fun handler member listed => ?_
      exact List.find?_eq_none.mp found handler member (canHandle_iff.mpr ⟨empty,listed⟩)
    | some handler =>
      obtain ⟨handles,before,later,split,others⟩ := List.find?_eq_some_iff_append.mp found
      refine ⟨empty,before,later,split,(canHandle_iff.mp handles).2,fun other member listed => ?_⟩
      have refused := others other member
      rw [canHandle_iff.mpr ⟨empty,listed⟩] at refused
      cases refused

theorem after_current (deviceProfiles : Handler → List String) (calls : List (RegistryCall Handler)) :
    Current deviceProfiles (after deviceProfiles calls) ∧ (after deviceProfiles calls).handlers = registered calls := by
  have new : Current deviceProfiles (DeviceHandlerRegistry.new : DeviceHandlerRegistry Handler) :=
    fun _ _ cached => by cases cached
  exact foldl_apply new calls

theorem after_search (deviceProfiles : Handler → List String) (calls : List (RegistryCall Handler))
    (deviceProfile : String) : ((after deviceProfiles calls).getHandler deviceProfiles deviceProfile).1 =
      search deviceProfiles (registered calls) deviceProfile := by
  obtain ⟨current,handlers⟩ := after_current deviceProfiles calls
  rw [getHandler_search current,handlers]

-- Whatever calls came before, a lookup answers what a search without the cache
-- does: the first handler registered so far that supports the profile.
theorem getHandler_transparent (deviceProfiles : Handler → List String) (calls : List (RegistryCall Handler))
    (deviceProfile : String) :
    ((after deviceProfiles calls).getHandler deviceProfiles deviceProfile).1 =
        search deviceProfiles (registered calls) deviceProfile ∧
      First deviceProfiles (registered calls) deviceProfile
        ((after deviceProfiles calls).getHandler deviceProfiles deviceProfile).1 := by
  have answer := after_search deviceProfiles calls deviceProfile
  refine ⟨answer,?_⟩
  rw [answer]
  exact search_first (registered calls) deviceProfile

-- The endpoint's registry, with its built-in handlers, is this one.
structure Agree (g : Registry) (r : DeviceHandlerRegistry Uplink.Handler) : Prop where
  handlers : g.handlers = r.handlers
  cached : ∀ deviceProfile, g.profileCache deviceProfile = r.profileCache.get? deviceProfile

def builtIn : List (RegistryCall Uplink.Handler) := [.register .browanTabs,.register .heltecDisplay,.register .kuandoBusylight]

theorem autoRegister_agree : Agree Registry.autoRegister (after Uplink.Handler.deviceProfiles builtIn) :=
  ⟨rfl,fun _ => rfl⟩

theorem canHandle_builtIn (deviceProfile : String) :
    (fun handler => canHandle Uplink.Handler.deviceProfiles handler deviceProfile) = (·.canHandle deviceProfile) := by
  funext handler
  unfold canHandle Uplink.Handler.canHandle
  by_cases empty : deviceProfile = ""
  · simp [empty]
  · simp [empty]

theorem getHandler_agree {g : Registry} {r : DeviceHandlerRegistry Uplink.Handler} (agree : Agree g r)
    (deviceProfile : String) :
    (g.getHandler deviceProfile).1 = (r.getHandler Uplink.Handler.deviceProfiles deviceProfile).1 ∧
      Agree (g.getHandler deviceProfile).2 (r.getHandler Uplink.Handler.deviceProfiles deviceProfile).2 := by
  unfold Registry.getHandler DeviceHandlerRegistry.getHandler
  rw [canHandle_builtIn,agree.cached,agree.handlers]
  by_cases empty : deviceProfile = ""
  · rw [if_pos empty,if_pos empty]
    exact ⟨rfl,agree⟩
  · rw [if_neg empty,if_neg empty]
    cases r.profileCache.get? deviceProfile with
    | some handler => exact ⟨rfl,agree⟩
    | none =>
      cases r.handlers.find? (·.canHandle deviceProfile) with
      | none => exact ⟨rfl,agree⟩
      | some handler =>
        refine ⟨rfl,rfl,fun other => ?_⟩
        change Function.update g.profileCache deviceProfile (some handler) other =
          (r.profileCache.set deviceProfile handler).get? other
        rw [Dict.get?_set,Function.update_apply,agree.cached]

theorem lookups_agree {g : Registry} {r : DeviceHandlerRegistry Uplink.Handler} (agree : Agree g r)
    (lookups : List String) :
    Agree (lookups.foldl (fun g deviceProfile => (g.getHandler deviceProfile).2) g)
      ((lookups.map RegistryCall.getHandler).foldl (RegistryCall.apply Uplink.Handler.deviceProfiles) r) := by
  induction lookups generalizing g r with
  | nil => exact agree
  | cons deviceProfile rest ih => exact ih (getHandler_agree agree deviceProfile).2

-- Whatever uplinks the endpoint has looked handlers up for, the next lookup
-- finds what a search of its list would.
theorem platform_getHandler (lookups : List String) (deviceProfile : String) :
    ((lookups.foldl (fun g deviceProfile => (g.getHandler deviceProfile).2) Registry.autoRegister).getHandler
      deviceProfile).1 = Registry.autoRegister.handlers.find? (·.canHandle deviceProfile) := by
  have agree := lookups_agree autoRegister_agree lookups
  have calls : (lookups.map RegistryCall.getHandler).foldl (RegistryCall.apply Uplink.Handler.deviceProfiles)
      (after Uplink.Handler.deviceProfiles builtIn) =
        after Uplink.Handler.deviceProfiles (builtIn ++ lookups.map RegistryCall.getHandler) := by
    unfold after
    rw [List.foldl_append]
  have all : registered (builtIn ++ lookups.map RegistryCall.getHandler) = Registry.autoRegister.handlers := by
    unfold registered
    rw [List.filterMap_append,List.filterMap_map]
    refine congrArg (Registry.autoRegister.handlers ++ ·) ?_
    exact List.filterMap_eq_nil_iff.mpr fun _ _ => rfl
  rw [(getHandler_agree agree deviceProfile).1,calls,after_search,all]
  exact congrArg (List.find? · Registry.autoRegister.handlers) (canHandle_builtIn deviceProfile)

end SmartParking.Uplink.Handlers
