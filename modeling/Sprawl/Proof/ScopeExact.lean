/-
This file proves that the scope of a user is exactly what its policies allow, in any arrangement.
-/

import Sprawl.Proof.Access

namespace Sprawl

section Arrangement

/-- The two properties have the same members up to a relation. -/
def SameUpTo {α : Type} (alike : α → α → Prop) (here there : α → Prop) : Prop :=
  (∀ item, here item → ∃ other, there other ∧ alike item other) ∧
    ∀ other, there other → ∃ item, here item ∧ alike item other

/-- A test that does not see the relation finds a member in both or in none. -/
theorem SameUpTo.exists_iff {α : Type} {alike : α → α → Prop} {here there test : α → Prop}
    (same : SameUpTo alike here there) (blind : ∀ item other, alike item other →
      (test item ↔ test other)) : (∃ item, here item ∧ test item) ↔ ∃ item, there item ∧ test item := by
  constructor
  · rintro ⟨item, inside, passes⟩
    obtain ⟨other, among, near⟩ := same.1 item inside
    exact ⟨other, among, (blind item other near).mp passes⟩
  · rintro ⟨other, among, passes⟩
    obtain ⟨item, inside, near⟩ := same.2 other among
    exact ⟨item, inside, (blind item other near).mpr passes⟩

/-- The entries of a statement, whether it allows or denies. -/
def PolicyStatement.resources (statement : PolicyStatement) : List String :=
  statement.resource.elim [] OneOrMany.items

/-- A statement of the document lists the resource as allowed. -/
def PolicyDocument.Allows (document : PolicyDocument) (arn : String) : Prop :=
  ∃ statement, statement ∈ document.statements ∧
    (statement.effect = "Allow" ∧ arn ∈ statement.resources)

/-- Two statements with the same effect and the same resources, in any order and number. -/
def PolicyStatement.Alike (statement other : PolicyStatement) : Prop :=
  statement.effect = other.effect ∧ ∀ arn, arn ∈ statement.resources ↔ arn ∈ other.resources

/-- Two documents with the same statements, in any order and number. -/
def PolicyDocument.Alike (document other : PolicyDocument) : Prop :=
  SameUpTo PolicyStatement.Alike (· ∈ document.statements) (· ∈ other.statements)

/-- Another order of the statements and repeated ones do not matter. -/
theorem PolicyDocument.alike_of_mem_iff {document other : PolicyDocument}
    (same : ∀ statement, statement ∈ document.statements ↔ statement ∈ other.statements) :
    document.Alike other :=
  ⟨fun statement inside => ⟨statement, (same statement).mp inside, rfl, fun _ => Iff.rfl⟩,
    fun statement inside => ⟨statement, (same statement).mpr inside, rfl, fun _ => Iff.rfl⟩⟩

theorem PolicyDocument.Alike.allows_iff {document other : PolicyDocument}
    (alike : document.Alike other) (arn : String) : document.Allows arn ↔ other.Allows arn := by
  apply alike.exists_iff
  intro statement sibling near
  rw [near.1, near.2 arn]

end Arrangement

namespace ScannedUser

variable (scanned other : ScannedUser)

/-- A document of the user lists the resource as allowed. -/
def Allows (arn : String) : Prop :=
  ∃ document, document ∈ scanned.policies ∧ document.Allows arn

/-- Two users with the same documents, in any order and number, on any pages. -/
def Rearranged : Prop :=
  SameUpTo PolicyDocument.Alike (· ∈ scanned.policies) (· ∈ other.policies)

/-- The scope of a principal that is the user. -/
def scope (principal : PrincipalRef) : List ResourceRef :=
  scanned.service.enumerateScope { principal with arn := scanned.arn }

theorem mem_entries {arn : String} : arn ∈ scanned.entries ↔ scanned.Allows arn := by
  simp only [entries, allowedEntries, resourcesFromDocument, List.mem_flatMap, mem_allowed, Allows,
    PolicyDocument.Allows, PolicyDocument.statements, PolicyStatement.resources]

theorem scope_eq (principal : PrincipalRef) :
    scanned.scope principal = (namedResources scanned.entries).map arnToResourceRef :=
  scanned.enumerateScope_eq rfl

theorem scope_arns (principal : PrincipalRef) :
    (scanned.scope principal).map (·.arn) = namedResources scanned.entries := by
  rw [scope_eq, List.map_map]
  exact List.map_id _

/-- The references are those of the resources that the user may use, one for each, without the
wildcard. -/
structure ExactScope (references : List ResourceRef) : Prop where
  converted : ∀ resource ∈ references, resource = arnToResourceRef resource.arn
  distinct : (references.map (·.arn)).Nodup
  exact : ∀ arn, arn ∈ references.map (·.arn) ↔ scanned.Allows arn ∧ arn ≠ "*"

theorem scope_exact (principal : PrincipalRef) :
    scanned.ExactScope (scanned.scope principal) where
  converted := by
    rw [scope_eq, List.forall_mem_map]
    exact fun _ _ => rfl
  distinct := by
    rw [scope_arns]
    exact namedResources_nodup scanned.entries
  exact arn := by
    rw [scope_arns, mem_namedResources, mem_entries]

variable {scanned other}

/-- New borders of the pages, another order of the policies and repeated ones rearrange a user. -/
theorem rearranged_of_mem_iff (documents : scanned.documentOf = other.documentOf)
    (attached : ∀ arn, arn ∈ scanned.user.attached.items ↔ arn ∈ other.user.attached.items)
    (inlined : ∀ listed, listed ∈ scanned.user.inlined.items ↔ listed ∈ other.user.inlined.items) :
    scanned.Rearranged other := by
  have same : ∀ document, document ∈ scanned.policies ↔ document ∈ other.policies := by
    intro document
    simp only [policies, List.mem_append, List.mem_filterMap, List.mem_map, documents, attached,
      inlined]
  have alike : ∀ document : PolicyDocument, document.Alike document :=
    fun _ => PolicyDocument.alike_of_mem_iff fun _ => Iff.rfl
  exact ⟨fun document inside => ⟨document, (same document).mp inside, alike document⟩,
    fun document inside => ⟨document, (same document).mpr inside, alike document⟩⟩

/-- Exact scopes of rearranged users have the same references. -/
theorem ExactScope.perm {references others : List ResourceRef}
    (here : scanned.ExactScope references) (there : other.ExactScope others)
    (rearranged : scanned.Rearranged other) : references.Perm others := by
  have allows : ∀ arn, scanned.Allows arn ↔ other.Allows arn := fun arn =>
    rearranged.exists_iff fun _ _ near => near.allows_iff arn
  have arns : (references.map (·.arn)).Perm (others.map (·.arn)) := by
    rw [List.perm_ext_iff_of_nodup here.distinct there.distinct]
    intro arn
    rw [here.exact, there.exact, allows]
  have restored : ∀ resources : List ResourceRef,
      (∀ resource ∈ resources, resource = arnToResourceRef resource.arn) →
        (resources.map (·.arn)).map arnToResourceRef = resources := by
    intro resources converted
    rw [List.map_map]
    exact (List.map_congr_left fun resource inside => (converted resource inside).symm).trans
      (List.map_id _)
  have same := arns.map arnToResourceRef
  rwa [restored references here.converted, restored others there.converted] at same

/-- The scope of a user without failing calls is exact, and no rearrangement of the user changes it
as a set. -/
theorem enumerateScope_exact (scanned : ScannedUser) (principal : PrincipalRef) :
    scanned.ExactScope (scanned.scope principal) ∧
      ∀ (other : ScannedUser) (namesake : PrincipalRef), scanned.Rearranged other →
        (scanned.scope principal).Perm (other.scope namesake) :=
  ⟨scanned.scope_exact principal, fun other namesake rearranged =>
    (scanned.scope_exact principal).perm (other.scope_exact namesake) rearranged⟩

section Example

theorem listed_policies (resources : List String) :
    (listed resources).policies = [{
      statement := some (.one { effect := "Allow", resource := some (.many resources) }) }] := rfl

/-- The order and the number of the entries rearrange a user. -/
theorem listed_rearranged {first second : List String}
    (same : ∀ arn, arn ∈ first ↔ arn ∈ second) : (listed first).Rearranged (listed second) := by
  rw [Rearranged, listed_policies, listed_policies]
  have alike : ∀ statement : PolicyStatement, statement = {
      effect := "Allow", resource := some (.many first) } →
        statement.Alike { effect := "Allow", resource := some (.many second) } := by
    rintro _ rfl
    exact ⟨rfl, same⟩
  have documents : PolicyDocument.Alike
      ⟨some (.one { effect := "Allow", resource := some (.many first) })⟩
      ⟨some (.one { effect := "Allow", resource := some (.many second) })⟩ := by
    constructor
    · exact fun statement among =>
        ⟨_, List.mem_singleton_self _, alike statement (List.mem_singleton.mp among)⟩
    · intro statement among
      obtain rfl := List.mem_singleton.mp among
      exact ⟨_, List.mem_singleton_self _, alike _ rfl⟩
  constructor
  · intro document inside
    obtain rfl := List.mem_singleton.mp inside
    exact ⟨_, List.mem_singleton_self _, documents⟩
  · intro document inside
    obtain rfl := List.mem_singleton.mp inside
    exact ⟨_, List.mem_singleton_self _, documents⟩

/-- Two buckets and the wildcard, in another order and one of them twice. -/
theorem buckets_perm :
    ((listed ["arn:aws:s3:::a", "*", "arn:aws:s3:::b"]).scope userKey.principal).Perm
      ((listed ["arn:aws:s3:::b", "arn:aws:s3:::a", "arn:aws:s3:::b", "*"]).scope
        userKey.principal) := by
  refine ((listed _).enumerateScope_exact userKey.principal).2 _ _ (listed_rearranged ?_)
  intro arn
  simp only [List.mem_cons, List.not_mem_nil, or_false]
  tauto

end Example

end ScannedUser

end Sprawl
