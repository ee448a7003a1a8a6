import SmartParking.Auth.ApiKeys

namespace SmartParking.Auth.Scopes
open ApiKeys

-- `enforce_api_key_scopes`. A query that raises is a database that is not there;
-- the text of the refusal lists a set, in the order in which Python has it.
def enforceApiKeyScopes (setOrder : List String → List String) (db : Option Table) (requiredScopes : List String)
    (apiKeyId : String) : Except HttpError Bool :=
  match db with
  | none => .error ⟨500,"Failed to verify API key scopes"⟩
  | some table =>
    match table.findActive apiKeyId with
    | none => .error ⟨403,"API key not found or inactive"⟩
    | some row =>
      let expandedRequired := expandScopes requiredScopes
      let expandedAvailable := expandScopes row.scopes
      if expandedAvailable.contains "*" then .ok true
      else if expandedRequired.all expandedAvailable.contains then .ok true
      else
        let missing := expandedRequired.filter fun scope => !expandedAvailable.contains scope
        .error ⟨403,"API key lacks required scopes: " ++ ", ".intercalate (setOrder missing.dedup)⟩

-- What one scope expands to.
def expansion (scope : String) : List String := (scopeHierarchy.lookup scope).getD [scope]

theorem mem_expandScopes {scopes : List String} {s : String} :
    s ∈ expandScopes scopes ↔ ∃ scope ∈ scopes, s ∈ expansion scope := List.mem_flatMap

-- The table is closed: what a scope of it stands for stands for itself and for
-- nothing else that the scope does not stand for.
theorem hierarchy_closed : ∀ entry ∈ scopeHierarchy, ∀ s ∈ entry.2, s ∈ expansion s ∧ ∀ t ∈ expansion s, t ∈ entry.2 := by
  decide

theorem hierarchy_admin : ∀ entry ∈ scopeHierarchy, "admin:*" ∉ entry.2 := by
  decide

theorem lookup_mem {scope : String} {scopes : List String} (found : scopeHierarchy.lookup scope = some scopes) :
    (scope,scopes) ∈ scopeHierarchy := by
  obtain ⟨before,later,split,_⟩ := List.lookup_eq_some_iff.mp found
  rw [split]
  exact List.mem_append_right before List.mem_cons_self

theorem expansion_closed {scope s : String} (expanded : s ∈ expansion scope) :
    s ∈ expansion s ∧ ∀ t ∈ expansion s, t ∈ expansion scope := by
  unfold expansion at expanded
  cases found : scopeHierarchy.lookup scope with
  | some scopes =>
    have whole : expansion scope = scopes := by rw [expansion,found]; rfl
    rw [found] at expanded
    rw [whole]
    exact hierarchy_closed _ (lookup_mem found) s expanded
  | none =>
    rw [found] at expanded
    cases List.mem_singleton.mp expanded
    have itself : expansion scope = [scope] := by rw [expansion,found]; rfl
    exact ⟨by rw [itself]; exact List.mem_singleton.mpr rfl,fun t member => member⟩

theorem expandScopes_mono {scopes others : List String} (within : scopes ⊆ others) :
    expandScopes scopes ⊆ expandScopes others := by
  intro s expanded
  obtain ⟨scope,member,stands⟩ := mem_expandScopes.mp expanded
  exact mem_expandScopes.mpr ⟨scope,within member,stands⟩

theorem expandScopes_idem (scopes : List String) (s : String) :
    s ∈ expandScopes (expandScopes scopes) ↔ s ∈ expandScopes scopes := by
  constructor
  · intro expanded
    obtain ⟨middle,held,stands⟩ := mem_expandScopes.mp expanded
    obtain ⟨scope,member,first⟩ := mem_expandScopes.mp held
    exact mem_expandScopes.mpr ⟨scope,member,(expansion_closed first).2 s stands⟩
  · intro expanded
    obtain ⟨scope,_,stands⟩ := mem_expandScopes.mp expanded
    exact mem_expandScopes.mpr ⟨s,expanded,(expansion_closed stands).1⟩

-- The wildcard of a key has become "*" before it is looked for.
theorem admin_expanded (scopes : List String) : "admin:*" ∉ expandScopes scopes := by
  intro expanded
  obtain ⟨scope,_,stands⟩ := mem_expandScopes.mp expanded
  unfold expansion at stands
  cases found : scopeHierarchy.lookup scope with
  | some expansion =>
    rw [found] at stands
    exact hierarchy_admin _ (lookup_mem found) stands
  | none =>
    rw [found] at stands
    cases List.mem_singleton.mp stands
    cases found

-- What both checks come to for a key with these scopes.
def Sufficient (required scopes : List String) : Prop :=
  "*" ∈ expandScopes scopes ∨ expandScopes required ⊆ expandScopes scopes

theorem Sufficient.mono {required fewer scopes more : List String} (enough : Sufficient required scopes)
    (less : fewer ⊆ required) (within : scopes ⊆ more) : Sufficient fewer more := by
  have kept := expandScopes_mono within
  rcases enough with wildcard | covered
  · exact .inl (kept wildcard)
  · exact .inr fun s expanded => kept (covered (expandScopes_mono less expanded))

theorem all_contains {required available : List String} :
    required.all available.contains = true ↔ required ⊆ available := by
  rw [List.all_eq_true]
  exact forall₂_congr fun s _ => List.contains_iff_mem

def Verdict (required scopes : List String) (answer : Except HttpError α) : Prop :=
  (Sufficient required scopes ∧ ∃ a, answer = .ok a) ∨
    ¬Sufficient required scopes ∧ ∃ detail, answer = .error ⟨403,detail⟩

-- Both functions decide so, each with its own test for the wildcard.
theorem decided_verdict {required scopes : List String} {wildcard : Bool}
    (reads : wildcard = true ↔ "*" ∈ expandScopes scopes) (a : α) (detail : String) :
    Verdict required scopes (if wildcard then .ok a
      else if (expandScopes required).all (expandScopes scopes).contains then .ok a else .error ⟨403,detail⟩) := by
  by_cases found : wildcard = true
  · rw [if_pos found]
    exact .inl ⟨.inl (reads.mp found),a,rfl⟩
  · rw [if_neg found]
    by_cases covered : (expandScopes required).all (expandScopes scopes).contains = true
    · rw [if_pos covered]
      exact .inl ⟨.inr (all_contains.mp covered),a,rfl⟩
    · rw [if_neg covered]
      refine .inr ⟨?_,detail,rfl⟩
      rintro (every | within)
      · exact found (reads.mpr every)
      · exact covered (all_contains.mpr within)

theorem checkScopes_verdict {tenant : TenantContext} {scopes : List String} (key : tenant.source = .apiKey)
    (held : tenant.apiKeyScopes.getD [] = scopes) (nonempty : scopes ≠ []) (required : List String) :
    Verdict required scopes (checkScopes required tenant) := by
  unfold checkScopes
  rw [key,held]
  cases scopes with
  | nil => exact absurd rfl nonempty
  | cons scope rest =>
    refine decided_verdict ?_ () _
    rw [Bool.or_eq_true,List.contains_iff_mem,List.contains_iff_mem]
    exact or_iff_left (admin_expanded _)

theorem enforceApiKeyScopes_verdict {table : Table} {row : ApiKey} {apiKeyId : String}
    (active : table.findActive apiKeyId = some row) (setOrder : List String → List String) (required : List String) :
    Verdict required row.scopes (enforceApiKeyScopes setOrder (some table) required apiKeyId) := by
  unfold enforceApiKeyScopes
  dsimp only
  rw [active]
  exact decided_verdict List.contains_iff_mem true _

theorem checkScopes_nonempty {tenant : TenantContext} {required : List String} (key : tenant.source = .apiKey)
    (admitted : checkScopes required tenant = .ok ()) : tenant.apiKeyScopes.getD [] ≠ [] := by
  intro empty
  unfold checkScopes at admitted
  rw [key,empty] at admitted
  cases admitted

theorem Verdict.sufficient {required scopes : List String} {answer : Except HttpError α} {a : α}
    (verdict : Verdict required scopes answer) (admitted : answer = .ok a) : Sufficient required scopes := by
  rcases verdict with ⟨enough,_⟩ | ⟨_,detail,refused⟩
  · exact enough
  · rw [refused] at admitted
    cases admitted

theorem checkScopes_mono {tenant other : TenantContext} {required fewer : List String} (key : tenant.source = .apiKey)
    (otherKey : other.source = .apiKey) (more : tenant.apiKeyScopes.getD [] ⊆ other.apiKeyScopes.getD [])
    (less : fewer ⊆ required) (admitted : checkScopes required tenant = .ok ()) : checkScopes fewer other = .ok () := by
  have held := checkScopes_nonempty key admitted
  have nonempty : other.apiKeyScopes.getD [] ≠ [] := fun empty => held (List.subset_nil.mp (by rwa [empty] at more))
  have enough := ((checkScopes_verdict key rfl held required).sufficient admitted).mono less more
  rcases checkScopes_verdict otherKey rfl nonempty fewer with ⟨_,_,granted⟩ | ⟨short,_⟩
  · exact granted
  · exact absurd enough short

def statusOf : Except HttpError α → Nat
  | .ok _ => 200
  | .error error => error.status

theorem Verdict.same {required scopes : List String} {one : Except HttpError α} {two : Except HttpError β}
    (first : Verdict required scopes one) (second : Verdict required scopes two) : statusOf one = statusOf two := by
  rcases first with ⟨enough,a,rfl⟩ | ⟨short,detail,rfl⟩
  · rcases second with ⟨_,b,rfl⟩ | ⟨wrong,_⟩
    · rfl
    · exact absurd enough wrong
  · rcases second with ⟨wrong,_⟩ | ⟨_,other,rfl⟩
    · exact absurd wrong short
    · rfl

-- The laws of the scopes: expanding is a closure, more scopes admit a key to
-- more, and the two implementations agree on keys with scopes.
theorem scopes_lawful :
    (∀ scopes others, scopes ⊆ others → expandScopes scopes ⊆ expandScopes others) ∧
    (∀ scopes s, s ∈ expandScopes (expandScopes scopes) ↔ s ∈ expandScopes scopes) ∧
    (∀ (tenant other : TenantContext) (required fewer : List String), tenant.source = .apiKey → other.source = .apiKey →
      tenant.apiKeyScopes.getD [] ⊆ other.apiKeyScopes.getD [] → fewer ⊆ required →
      checkScopes required tenant = .ok () → checkScopes fewer other = .ok ()) ∧
    ∀ (table : Table) (apiKeyId : String) (row : ApiKey) (tenant : TenantContext) (required : List String) setOrder,
      table.findActive apiKeyId = some row → row.scopes ≠ [] → tenant.source = .apiKey →
      tenant.apiKeyScopes = some row.scopes →
      statusOf (checkScopes required tenant) = statusOf (enforceApiKeyScopes setOrder (some table) required apiKeyId) := by
  refine ⟨fun _ _ => expandScopes_mono,expandScopes_idem,?_,?_⟩
  · intro tenant other required fewer key otherKey more less admitted
    exact checkScopes_mono key otherKey more less admitted
  · intro table apiKeyId row tenant required setOrder active nonempty key held
    have scopes : tenant.apiKeyScopes.getD [] = row.scopes := by rw [held]; rfl
    exact (checkScopes_verdict key scopes nonempty required).same (enforceApiKeyScopes_verdict active setOrder required)

def writer : ApiKey := ⟨"k","h","writer",some "t",["spaces:write"],true⟩

def writerContext (scopes : List String) : TenantContext where
  tenantId := "t"
  tenantName := "T"
  tenantSlug := "t"
  apiKeyId := some "k"
  apiKeyScopes := some scopes
  source := .apiKey

-- A key that may write spaces, asked for reading them, then for reading devices.
theorem scopes_lawful_writer :
    checkScopes ["spaces:read"] (writerContext ["spaces:write","x"]) = .ok () ∧
      statusOf (checkScopes ["devices:read"] (writerContext ["spaces:write"])) =
        statusOf (enforceApiKeyScopes id (some ⟨[writer],List.nodup_singleton _,List.nodup_singleton _⟩)
          ["devices:read"] "k") :=
  ⟨scopes_lawful.2.2.1 (writerContext ["spaces:write"]) _ ["spaces:read","spaces:write"] _ rfl rfl (by decide)
     (by decide) (by decide),
   scopes_lawful.2.2.2 _ "k" writer _ _ id (by decide) (by decide) rfl rfl⟩

end SmartParking.Auth.Scopes
