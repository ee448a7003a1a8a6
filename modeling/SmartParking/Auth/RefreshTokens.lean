import Mathlib.Data.List.Nodup
import Mathlib.Logic.Function.Basic
import SmartParking.Lib.Sha256

namespace SmartParking.Auth
open Lib

-- Instants in whole microseconds.
abbrev Instant := Int

def minute : Instant := 60*1000000
def expiryDays : Instant := 30*24*60*minute
def reuseDetectionWindow : Instant := 5*minute

def hashToken (token : String) : String := String.ofList (Sha256.hexdigest token)

structure RefreshToken where
  id : Nat
  userId : String
  tokenHash : String
  deviceFingerprint : Option String
  ipAddress : Option String
  userAgent : Option String
  createdAt : Instant
  expiresAt : Instant
  revokedAt : Option Instant := none
  deriving DecidableEq

def RefreshToken.stamp (row : RefreshToken) (marked : Bool) (now : Instant) : RefreshToken :=
  if marked then {row with revokedAt := some now} else row

theorem RefreshToken.stamp_id (row : RefreshToken) (marked : Bool) (now : Instant) : (row.stamp marked now).id = row.id := by
  cases marked <;> rfl

theorem RefreshToken.stamp_tokenHash (row : RefreshToken) (marked : Bool) (now : Instant) :
    (row.stamp marked now).tokenHash = row.tokenHash := by
  cases marked <;> rfl

theorem RefreshToken.stamp_revoked (row : RefreshToken) (marked : Bool) (now : Instant)
    (revoked : marked = true ∨ row.revokedAt.isSome) : (row.stamp marked now).revokedAt.isSome := by
  cases marked with
  | true => rfl
  | false => simpa [RefreshToken.stamp] using revoked

-- `refresh_tokens` with its keys; `serial` is the next value of the id sequence.
structure Table where
  rows : List RefreshToken
  serial : Nat
  assigned : ∀ row ∈ rows, row.id < serial
  primaryKey : (rows.map (·.id)).Nodup
  tokenHash : (rows.map (·.tokenHash)).Nodup

structure Client where
  deviceFingerprint : Option String := none
  ipAddress : Option String := none
  userAgent : Option String := none
  deriving DecidableEq

namespace Table

def empty : Table := ⟨[],1,fun _ member => absurd member List.not_mem_nil,List.nodup_nil,List.nodup_nil⟩

def find (t : Table) (hash : String) : Option RefreshToken := t.rows.find? (·.tokenHash == hash)

-- UPDATE ... SET revoked_at = NOW() on the marked rows. No key changes.
def stamp (t : Table) (mark : RefreshToken → Bool) (now : Instant) : Table where
  rows := t.rows.map fun row => row.stamp (mark row) now
  serial := t.serial
  assigned := by
    intro row member
    obtain ⟨old,present,rfl⟩ := List.mem_map.mp member
    rw [RefreshToken.stamp_id]
    exact t.assigned old present
  primaryKey := by
    rw [List.map_map,List.map_congr_left (g := (·.id)) fun row _ => row.stamp_id (mark row) now]
    exact t.primaryKey
  tokenHash := by
    rw [List.map_map,List.map_congr_left (g := (·.tokenHash)) fun row _ => row.stamp_tokenHash (mark row) now]
    exact t.tokenHash

def revokeToken (t : Table) (tokenId : Nat) (now : Instant) : Table := t.stamp (·.id == tokenId) now

-- An absent or empty fingerprint stands for all devices of the user.
def revokeTokenFamily (t : Table) (userId : String) (fingerprint : Option String) (now : Instant) : Table :=
  match fingerprint.filter (· ≠ "") with
  | some device =>
    t.stamp (fun row => row.userId == userId && row.deviceFingerprint == some device && row.revokedAt.isNone) now
  | none => t.stamp (fun row => row.userId == userId && row.revokedAt.isNone) now

def newRow (t : Table) (userId hash : String) (client : Client) (now : Instant) : RefreshToken :=
  ⟨t.serial,userId,hash,client.deviceFingerprint,client.ipAddress,client.userAgent,now,now+expiryDays,none⟩

variable {hash : String} {row : RefreshToken} {tokenId : Nat}

theorem newRow_assigned (t : Table) (userId hash : String) (client : Client) (now : Instant) :
    ∀ row ∈ t.rows ++ [t.newRow userId hash client now], row.id < t.serial+1 := by
  intro row member
  rcases List.mem_append.mp member with old | new
  · exact Nat.lt_succ_of_lt (t.assigned row old)
  · cases List.mem_singleton.mp new
    exact Nat.lt_succ_self _

theorem newRow_primaryKey (t : Table) (userId hash : String) (client : Client) (now : Instant) :
    ((t.rows ++ [t.newRow userId hash client now]).map (·.id)).Nodup := by
  rw [List.map_append]
  apply t.primaryKey.append (List.nodup_singleton _)
  rw [List.disjoint_singleton]
  intro member
  obtain ⟨row,present,same⟩ := List.mem_map.mp member
  exact absurd (t.assigned row present) (same ▸ Nat.lt_irrefl _)

theorem newRow_tokenHash (t : Table) (userId : String) (client : Client) (now : Instant) (fresh : t.find hash = none) :
    ((t.rows ++ [t.newRow userId hash client now]).map (·.tokenHash)).Nodup := by
  rw [List.map_append]
  apply t.tokenHash.append (List.nodup_singleton _)
  rw [List.disjoint_singleton]
  intro member
  obtain ⟨row,present,same⟩ := List.mem_map.mp member
  exact List.find?_eq_none.mp fresh row present (beq_iff_eq.mpr same)

-- The INSERT of `create_refresh_token`. A hash that is taken violates the unique
-- constraint; the sequence moves on in either case.
def insert (t : Table) (userId hash : String) (client : Client) (now : Instant) : Table × Bool :=
  if fresh : t.find hash = none then
    ({rows := t.rows ++ [t.newRow userId hash client now]
      serial := t.serial+1
      assigned := t.newRow_assigned userId hash client now
      primaryKey := t.newRow_primaryKey userId hash client now
      tokenHash := t.newRow_tokenHash userId client now fresh},true)
  else ({t with serial := t.serial+1,assigned := fun row member => Nat.lt_succ_of_lt (t.assigned row member)},false)

def Extends (t next : Table) : Prop :=
  ∀ hash row, t.find hash = some row →
    ∃ row', next.find hash = some row' ∧ row'.id = row.id ∧ (row.revokedAt.isSome → row'.revokedAt.isSome)

theorem extends_refl (t : Table) : Extends t t := fun _ row found => ⟨row,found,rfl,id⟩

theorem find_stamp (t : Table) (mark : RefreshToken → Bool) (now : Instant) (hash : String) :
    (t.stamp mark now).find hash = (t.find hash).map fun row => row.stamp (mark row) now := by
  unfold find stamp
  dsimp only
  rw [List.find?_map]
  congr 2
  funext row
  exact congrArg (· == hash) (row.stamp_tokenHash (mark row) now)

theorem stamp_extends (t : Table) (mark : RefreshToken → Bool) (now : Instant) : Extends t (t.stamp mark now) := by
  intro hash row found
  refine ⟨row.stamp (mark row) now,by rw [find_stamp,found]; rfl,row.stamp_id _ _,?_⟩
  exact fun revoked => row.stamp_revoked _ _ (.inr revoked)

-- The UPDATE of a reuse reaches every row of the family that is not revoked.
theorem revokeTokenFamily_marks (t : Table) (userId : String) (fingerprint : Option String) (now : Instant) :
    ∃ mark : RefreshToken → Bool, t.revokeTokenFamily userId fingerprint now = t.stamp mark now ∧
      ∀ row, row.userId = userId → (fingerprint.filter (· ≠ "") = none ∨ row.deviceFingerprint = fingerprint) →
        mark row = true ∨ row.revokedAt.isSome := by
  unfold revokeTokenFamily
  cases named : fingerprint.filter (· ≠ "") with
  | none =>
    refine ⟨_,rfl,?_⟩
    intro row owner _
    cases row.revokedAt <;> simp [owner]
  | some device =>
    refine ⟨_,rfl,?_⟩
    intro row owner shared
    have same : row.deviceFingerprint = some device := by
      rcases shared with unnamed | same
      · cases unnamed
      · rw [same,Option.eq_some_of_filter_eq_some named]
    cases row.revokedAt <;> simp [owner,same]

theorem revokeTokenFamily_extends (t : Table) (userId : String) (fingerprint : Option String) (now : Instant) :
    Extends t (t.revokeTokenFamily userId fingerprint now) := by
  obtain ⟨mark,stamps,_⟩ := t.revokeTokenFamily_marks userId fingerprint now
  rw [stamps]
  exact stamp_extends t mark now

theorem insert_find {t : Table} (found : t.find hash = some row) :
    (t.insert userId key client now).1.find hash = some row := by
  unfold insert
  split
  · show (t.rows ++ _).find? _ = _
    rw [List.find?_append]
    exact congrArg (Option.or · _) found
  · exact found

theorem insert_extends (t : Table) (userId hash : String) (client : Client) (now : Instant) :
    Extends t (t.insert userId hash client now).1 := by
  intro key row found
  exact ⟨row,insert_find found,rfl,id⟩

theorem revokeToken_revokes (t : Table) (now : Instant) (found : t.find hash = some row) (same : row.id = tokenId) :
    ∃ row', (t.revokeToken tokenId now).find hash = some row' ∧ row'.revokedAt.isSome := by
  refine ⟨row.stamp (row.id == tokenId) now,by rw [revokeToken,find_stamp,found]; rfl,?_⟩
  exact row.stamp_revoked _ _ (.inl (beq_iff_eq.mpr same))

end Table

end SmartParking.Auth
