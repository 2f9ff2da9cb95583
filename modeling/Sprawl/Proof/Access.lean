/-
This file proves when a user with more access scores no lower.
-/

import Sprawl.Proof.Coverage
import Sprawl.Proof.SeverityScale

namespace Sprawl

section Grants

def PolicyDocument.statements (document : PolicyDocument) : List PolicyStatement :=
  document.statement.elim [] OneOrMany.items

/-- A statement that allows grants what it lists, and everything where it lists the wildcard. -/
def PolicyStatement.Grants (statement : PolicyStatement) (arn : String) : Prop :=
  statement.effect = "Allow" ∧
    ∃ entry ∈ statement.resource.elim [] OneOrMany.items, entry = "*" ∨ entry = arn

/-- A set of policies grants what one of its statements grants. -/
def Grants (policies : List PolicyDocument) (arn : String) : Prop :=
  ∃ document ∈ policies, ∃ statement ∈ document.statements, statement.Grants arn

/-- All entries of the statements that allow. -/
def allowedEntries (policies : List PolicyDocument) : List String :=
  policies.flatMap resourcesFromDocument

theorem mem_allowed {statement : PolicyStatement} {entry : String} :
    entry ∈ statement.allowed ↔
      statement.effect = "Allow" ∧ entry ∈ statement.resource.elim [] OneOrMany.items := by
  rw [PolicyStatement.allowed]
  split
  · next allows => simp [allows]
  · next denies => simp [denies]

theorem grants_iff {policies : List PolicyDocument} {arn : String} :
    Grants policies arn ↔ "*" ∈ allowedEntries policies ∨ arn ∈ allowedEntries policies := by
  simp only [Grants, PolicyStatement.Grants, allowedEntries, resourcesFromDocument,
    PolicyDocument.statements, List.mem_flatMap, mem_allowed]
  constructor
  · intro given
    obtain ⟨document, inside, statement, among, allows, entry, listed, rfl | rfl⟩ := given
    · exact Or.inl ⟨document, inside, statement, among, allows, listed⟩
    · exact Or.inr ⟨document, inside, statement, among, allows, listed⟩
  · intro given
    obtain ⟨document, inside, statement, among, allows, listed⟩ |
      ⟨document, inside, statement, among, allows, listed⟩ := given
    · exact ⟨document, inside, statement, among, allows, "*", listed, Or.inl rfl⟩
    · exact ⟨document, inside, statement, among, allows, arn, listed, Or.inr rfl⟩

theorem mem_namedResources {entries : List String} {arn : String} :
    arn ∈ namedResources entries ↔ arn ∈ entries ∧ arn ≠ "*" := by
  simp [namedResources]

theorem namedResources_nodup (entries : List String) : (namedResources entries).Nodup :=
  (List.nodup_dedup entries).filter _

/-- The node counts such a resource twice. -/
def isHighPrivArn (arn : String) : Bool :=
  highPrivTypes.contains (lowerText (arnToResourceRef arn).resourceType)

/-- The distinct resources that the entries name, with those of high privilege counted twice. -/
def accessWeight (entries : List String) : Nat :=
  (namedResources entries).length + ((namedResources entries).filter isHighPrivArn).length

/-- A list of distinct items is no longer than one that has them all. -/
theorem length_le_of_nodup {α : Type} {first second : List α} (distinct : first.Nodup)
    (included : ∀ item ∈ first, item ∈ second) : first.length ≤ second.length :=
  (distinct.subperm included).length_le

end Grants

/-- A user of an account whose calls all succeed. -/
structure ScannedUser where
  service : IamService
  arn : String
  username : String
  user : IamUser
  named : extractUsername arn = some username
  present : username ≠ ""
  client : service.failure .client = none
  read : service.ReadsUser username user

namespace ScannedUser

variable (scanned : ScannedUser)

/-- The default version of a managed policy of the account. -/
def documentOf (arn : String) : Option PolicyDocument :=
  (scanned.service.policy? arn).bind fun policy => policy.versions.lookup policy.defaultVersionId

/-- The policies that are attached to the user or inlined in it. -/
def policies : List PolicyDocument :=
  scanned.user.attached.items.filterMap scanned.documentOf ++
    scanned.user.inlined.items.map (·.2)

/-- The entries of the user that allow. -/
def entries : List String := allowedEntries scanned.policies

/-- The secret is a key of the user. -/
def context (secret : SecretContext) : SecretContext :=
  { secret with principalArn := some scanned.arn }

/-- The score that the pipeline computes for a secret of the user. -/
noncomputable def score (secret : SecretContext) (storeVerify : Option StoreVerification)
    (uuid4 : Nat → Uuid) : Int :=
  let context := scanned.context secret
  (contextSeverity (F := ℝ) context
    (some (blastRadiusGraph (scanned.service.answers context storeVerify uuid4) context))).score

theorem managedDocument_eq {arn : String} (reads : scanned.service.ReadsManaged arn) :
    ∃ document, scanned.documentOf arn = some document ∧
      scanned.service.managedDocument arn = .ok document := by
  obtain ⟨policy, known, versioned, first, second⟩ := reads
  obtain ⟨document, read⟩ := Option.isSome_iff_exists.mp versioned
  refine ⟨document, ?_, ?_⟩
  · rw [documentOf, known]
    exact read
  · rw [IamService.managedDocument, Effect.bind_eq_ok]
    refine ⟨policy.defaultVersionId, ?_, ?_⟩
    · rw [IamService.getPolicy, IamService.call_eq_ok, known]
      exact ⟨first, rfl⟩
    · rw [IamService.getPolicyVersion, IamService.call_eq_ok, known]
      exact ⟨second, IamService.orNoSuchEntity_eq_ok.mpr read⟩

/-- The resources of the attached policies are the entries of their documents. -/
theorem managed_entries {arns : List String}
    (reads : ∀ arn ∈ arns, scanned.service.ReadsManaged arn) :
    arns.flatMap scanned.service.resourcesFromManagedPolicy =
      allowedEntries (arns.filterMap scanned.documentOf) := by
  induction arns with
  | nil => rfl
  | cons arn rest ih =>
      rw [List.forall_mem_cons] at reads
      obtain ⟨document, found, read⟩ := scanned.managedDocument_eq reads.1
      rw [List.flatMap_cons, ih reads.2, List.filterMap_cons_some found,
        IamService.resourcesFromManagedPolicy, read]
      rfl

/-- The resources of the inlined policies are the entries of their documents. -/
theorem inlined_entries {listed : List (String × PolicyDocument)}
    (reads : ∀ entry ∈ listed,
      scanned.service.failure (.getUserPolicy scanned.username entry.1) = none) :
    listed.flatMap (scanned.service.resourcesFromInlinePolicy scanned.username) =
      allowedEntries (listed.map (·.2)) := by
  induction listed with
  | nil => rfl
  | cons entry rest ih =>
      rw [List.forall_mem_cons] at reads
      have read : scanned.service.inlinedDocument scanned.username entry = .ok entry.2 :=
        IamService.call_eq_ok.mpr ⟨reads.1, rfl⟩
      rw [List.flatMap_cons, ih reads.2, List.map_cons, IamService.resourcesFromInlinePolicy, read]
      rfl

/-- The scope of the user has one resource for each named entry. -/
theorem enumerateScope_eq {principal : PrincipalRef} (same : principal.arn = scanned.arn) :
    scanned.service.enumerateScope principal =
      (namedResources scanned.entries).map arnToResourceRef := by
  have collected : scanned.service.collectUser scanned.username = .ok scanned.entries := by
    refine IamService.collectUser_eq_ok.mpr ⟨scanned.user, scanned.read.known,
      scanned.read.listsAttached, scanned.read.listsInlined, ?_⟩
    rw [managed_entries _ scanned.read.managed, inlined_entries _ scanned.read.inlined, entries,
      policies, allowedEntries, List.flatMap_append]
    rfl
  have found : scanned.service.scopeOf principal =
      .ok ((namedResources scanned.entries).map arnToResourceRef) := by
    have named : extractUsername principal.arn = some scanned.username := by
      rw [same]
      exact scanned.named
    exact (IamService.scopeOf_eq_ok named scanned.present).mpr
      ⟨scanned.client, scanned.entries, collected, rfl⟩
  rw [IamService.enumerateScope, found]

/-- The score is the one of the weight of the entries. -/
theorem score_eq (secret : SecretContext) (storeVerify : Option StoreVerification)
    (uuid4 : Nat → Uuid) :
    scanned.score secret storeVerify uuid4 =
      min 100 (Numeric.roundHalfEven (severityLevel (accessWeight scanned.entries)
        (attributeHundredths secret.environment secret.exposureStatus secret.secretType))) := by
  have known : truthy (scanned.context secret).principalArn = true := by
    have other : scanned.arn ≠ "" := by
      intro empty
      have named := scanned.named
      rw [empty] at named
      cases named
    exact decide_eq_true other
  have scope : scanned.service.enumerateScope (scanned.context secret).principal =
      (namedResources scanned.entries).map arnToResourceRef := scanned.enumerateScope_eq rfl
  have graph : ((blastRadiusGraph (scanned.service.answers (scanned.context secret) storeVerify
      uuid4) (scanned.context secret)).resourceCount,
        (blastRadiusGraph (scanned.service.answers (scanned.context secret) storeVerify uuid4)
          (scanned.context secret)).highPrivCount) =
      ((namedResources scanned.entries).length,
        ((namedResources scanned.entries).filter isHighPrivArn).length) := by
    simp only [blastRadiusGraph, IamService.answers, known, if_true, Option.getD_some, scope,
      List.length_map, List.filter_map]
    rfl
  obtain ⟨count, highPriv⟩ := Prod.mk.inj graph
  rw [score, contextSeverity]
  simp only [Option.elim_some]
  rw [count, highPriv, severityScore_score]
  rfl

end ScannedUser

section Weight

/-- Entries that name more resources weigh more. -/
theorem accessWeight_mono {less more : List String}
    (included : ∀ arn ∈ namedResources less, arn ∈ namedResources more) :
    accessWeight less ≤ accessWeight more := by
  apply Nat.add_le_add (length_le_of_nodup (namedResources_nodup less) included)
  apply length_le_of_nodup ((namedResources_nodup less).filter _)
  intro arn inside
  rw [List.mem_filter] at inside ⊢
  exact ⟨included arn inside.1, inside.2⟩

end Weight

namespace ScannedUser

/-- Every resource that the other user may access is one that this user may access. -/
def Covers (first second : ScannedUser) : Prop :=
  ∀ arn, arn ≠ "*" → Grants second.policies arn → Grants first.policies arn

/-- No user with less access scores higher. -/
def NeverLower (first : ScannedUser) : Prop :=
  ∀ second : ScannedUser, first.Covers second → ∀ secret storeVerify uuid4 otherVerify otherUuid4,
    second.score secret otherVerify otherUuid4 ≤ first.score secret storeVerify uuid4

/-- Without a wildcard the named resources tell what a user may access. -/
theorem Covers.weight_le {first second : ScannedUser} (covers : first.Covers second)
    (plain : "*" ∉ first.entries) : accessWeight second.entries ≤ accessWeight first.entries := by
  apply accessWeight_mono
  intro arn inside
  rw [mem_namedResources] at inside ⊢
  have granted : Grants first.policies arn :=
    covers arn inside.2 (grants_iff.mpr (Or.inr inside.1))
  exact ⟨(grants_iff.mp granted).resolve_left plain, inside.2⟩

/-- The score grows with the share of the weight. -/
theorem score_le_of_share {first second : ScannedUser}
    (shares : scopeShare (accessWeight second.entries) ≤ scopeShare (accessWeight first.entries))
    (secret : SecretContext) (storeVerify otherVerify : Option StoreVerification)
    (uuid4 otherUuid4 : Nat → Uuid) :
    second.score secret otherVerify otherUuid4 ≤ first.score secret storeVerify uuid4 := by
  rw [score_eq, score_eq]
  apply min_le_min_left
  apply Numeric.roundHalfEven_mono
  unfold severityLevel
  linarith

section Listed

/-- A user with one inlined policy that allows the listed resources. -/
def listedUser (resources : List String) : IamUser where
  name := "alice"
  attached := { first := [], later := [] }
  inlined := {
    first := [("access", { statement := some (.one {
      effect := "Allow"
      resource := some (.many resources) }) })]
    later := [] }

/-- All calls of the account of such a user succeed. -/
def listed (resources : List String) : ScannedUser where
  service := {
    account := { users := [listedUser resources], policies := [] }
    failure := fun _ => none }
  arn := "arn:aws:iam::123456789012:user/alice"
  username := "alice"
  user := listedUser resources
  named := by decide
  present := by decide
  client := rfl
  read := {
    known := by simp [IamService.user?, listedUser]
    listsAttached := fun _ _ => rfl
    listsInlined := fun _ _ => rfl
    managed := fun _ inside => absurd inside List.not_mem_nil
    inlined := fun _ _ => rfl }

theorem listed_entries (resources : List String) : (listed resources).entries = resources := by
  simp [entries, policies, allowedEntries, listed, listedUser, Pages.items, Pages.toList,
    resourcesFromDocument, OneOrMany.items, PolicyStatement.allowed]

/-- An object of the logs, with as long a name as is wanted. -/
def logArn (number : Nat) : String :=
  "arn:aws:s3:::logs/" ++ String.ofList (List.replicate number 'b')

theorem length_append_replicate (start : String) (number : Nat) :
    (start ++ String.ofList (List.replicate number 'b')).length = start.length + number := by
  rw [String.length_append, String.length_ofList, List.length_replicate]

theorem logArn_length (number : Nat) :
    (logArn number).length = "arn:aws:s3:::logs/".length + number :=
  length_append_replicate _ number

theorem logArn_injective : Function.Injective logArn := by
  intro first second same
  have lengths := congrArg String.length same
  rw [logArn_length, logArn_length] at lengths
  exact Nat.add_left_cancel lengths

/-- There are as many objects of the logs as are wanted. -/
theorem le_accessWeight_logs (count : Nat) :
    count ≤ accessWeight ((List.range count).map logArn) := by
  have distinct : ((List.range count).map logArn).Nodup :=
    List.nodup_range.map logArn_injective
  have named : namedResources ((List.range count).map logArn) = (List.range count).map logArn := by
    rw [namedResources, distinct.dedup, List.filter_eq_self]
    intro arn inside
    obtain ⟨number, _, rfl⟩ := List.mem_map.mp inside
    apply decide_eq_true
    intro same
    have lengths := congrArg String.length same
    rw [logArn_length] at lengths
    have short : "*".length < "arn:aws:s3:::logs/".length := by decide
    exact absurd (short.trans_le (Nat.le_add_right _ number)) (lengths ▸ Nat.lt_irrefl _)
  calc count = (namedResources ((List.range count).map logArn)).length := by
        rw [named, List.length_map, List.length_range]
    _ ≤ _ := Nat.le_add_right _ _

end Listed

/-- A password that is believed to be live in production is half a point below a round score. -/
def productionPassword : SecretContext where
  secretId := 1
  workspaceId := 2
  investigationId := 3
  secretType := "password"
  environment := "prod"
  exposureStatus := "live_inferred"

/-- The highest score needs the whole share. -/
theorem productionPassword_score (scanned : ScannedUser) :
    90 ≤ scanned.score productionPassword none id ↔ 127 ≤ accessWeight scanned.entries := by
  rw [← scopeShare_eq_one_iff, score_eq, le_min_iff]
  have attributes : attributeHundredths productionPassword.environment
      productionPassword.exposureStatus productionPassword.secretType = 4950 := by decide
  have below : Numeric.roundHalfEven (severityLevel (accessWeight scanned.entries) 4950) ≤ 89 ↔
      scopeShare (accessWeight scanned.entries) < 1 := by
    rw [Numeric.roundHalfEven_le_iff, severityLevel]
    norm_num
    constructor <;> intro given <;> linarith
  have most := scopeShare_le_one (accessWeight scanned.entries)
  rw [attributes]
  constructor
  · intro reached
    by_contra part
    have short := below.mpr (lt_of_le_of_ne most part)
    omega
  · intro whole
    refine ⟨by norm_num, ?_⟩
    by_contra short
    have part := below.mp (by omega)
    exact part.ne whole

/-- More access never scores lower exactly if no wildcard is dropped or the share is whole. -/
theorem neverLower_iff (first : ScannedUser) :
    first.NeverLower ↔ "*" ∉ first.entries ∨ 127 ≤ accessWeight first.entries := by
  constructor
  · intro never
    by_contra given
    push Not at given
    obtain ⟨wildcard, light⟩ := given
    have covers : first.Covers (listed ((List.range 127).map logArn)) :=
      fun _ _ _ => grants_iff.mpr (Or.inl wildcard)
    have heavy : 90 ≤ (listed ((List.range 127).map logArn)).score productionPassword none id := by
      rw [productionPassword_score, listed_entries]
      exact le_accessWeight_logs 127
    have high := heavy.trans (never _ covers productionPassword none id none id)
    rw [productionPassword_score] at high
    omega
  · intro given second covers secret storeVerify uuid4 otherVerify otherUuid4
    apply score_le_of_share
    obtain plain | heavy := given
    · exact scopeShare_mono (covers.weight_le plain)
    · rw [scopeShare_eq_one_iff.mpr heavy]
      exact scopeShare_le_one _

section Example

theorem scopeShare_one : scopeShare 1 = 1 / 7 := by
  have two : Numeric.log2 ((1 + 1 : Nat) : ℝ) = 1 := by
    rw [one_add_one_eq_two, Nat.cast_ofNat, Numeric.log2_two]
  rw [scopeShare, two]
  norm_num

/-- A user of all resources scores lower than a user of one bucket. -/
theorem wildcard_scores_lower :
    (listed ["*"]).Covers (listed ["arn:aws:s3:::bucket"]) ∧
      (listed ["*"]).score productionPassword none id <
        (listed ["arn:aws:s3:::bucket"]).score productionPassword none id := by
  constructor
  · intro arn _ _
    apply grants_iff.mpr
    left
    change "*" ∈ (listed ["*"]).entries
    rw [listed_entries]
    exact List.mem_singleton_self "*"
  have attributes : attributeHundredths productionPassword.environment
      productionPassword.exposureStatus productionPassword.secretType = 4950 := by decide
  have none : accessWeight ["*"] = 0 := by decide
  have one : 1 ≤ accessWeight ["arn:aws:s3:::bucket"] :=
    Nat.le_add_right 1 _
  rw [score_eq, score_eq, attributes, listed_entries, listed_entries, none]
  have lower : Numeric.roundHalfEven (severityLevel 0 4950) ≤ 50 := by
    rw [Numeric.roundHalfEven_le_iff, severityLevel, scopeShare_zero]
    norm_num
  have higher : 51 ≤ Numeric.roundHalfEven
      (severityLevel (accessWeight ["arn:aws:s3:::bucket"]) 4950) := by
    by_contra less
    have within : Numeric.roundHalfEven
        (severityLevel (accessWeight ["arn:aws:s3:::bucket"]) 4950) ≤ 50 := by omega
    have share := scopeShare_mono one
    rw [scopeShare_one] at share
    rw [Numeric.roundHalfEven_le_iff, severityLevel] at within
    norm_num at within
    rcases within with below | same <;> linarith
  omega

end Example

end ScannedUser

end Sprawl
