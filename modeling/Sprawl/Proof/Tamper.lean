/-
This file proves that a hash chain shows every change of its entries.
-/

import Sprawl.Proof.AuditChain
import Sprawl.Proof.JsonReading

namespace Sprawl

section Payloads

variable {first second : AuditPayload}

/-- The dictionary of a payload has no float. -/
theorem AuditPayload.Floatless.json (floatless : first.Floatless) : first.json.Floatless := by
  have optional (given : Option String) : (Json.optional .str given).Floatless := by
    cases given <;> trivial
  exact ⟨trivial, trivial, trivial, optional _, optional _, floatless.before, floatless.after,
    optional _, trivial, trivial⟩

theorem agrees_str_iff {text other : String} : (Json.str text).Agrees (.str other) ↔ text = other := by
  simp [Json.Agrees, Json.ordered]

theorem agrees_optional_iff {given other : Option String} :
    (Json.optional .str given).Agrees (.optional .str other) ↔ given = other := by
  cases given <;> cases other <;> simp [Json.Agrees, Json.ordered, Json.optional]

/-- Payloads agree exactly if their texts are equal and their documents agree. -/
theorem AuditPayload.agrees_iff :
    first.json.Agrees second.json ↔
      first.action = second.action ∧ first.actor = second.actor ∧
      (Json.dict first.after).Agrees (.dict second.after) ∧
      (Json.dict first.before).Agrees (.dict second.before) ∧
      first.correlationId = second.correlationId ∧ first.createdAt = second.createdAt ∧
      first.targetId = second.targetId ∧ first.targetType = second.targetType ∧
      first.workspaceId = second.workspaceId := by
  unfold AuditPayload.json
  rw [agrees_obj_iff]
  simp only [List.insertionSort_cons, List.insertionSort_nil, List.orderedInsert_nil,
    List.orderedInsert_cons, byName, String.reduceLE, if_true, if_false, List.forall₂_cons,
    List.forall₂_nil_left_iff, agrees_str_iff, agrees_optional_iff, true_and, and_true]

end Payloads

section Chains

variable [Sha256]

/-- The hash of one entry of a chain. -/
def entryHash (payloads : List AuditPayload) (index : Nat) : String :=
  chainHash genesisHash (payloads.take (index + 1))

/-- The first entries of a chain hash the first texts. -/
theorem chainTexts_take (prevHash : String) (payloads : List AuditPayload) (count : Nat) :
    chainTexts prevHash (payloads.take count) = (chainTexts prevHash payloads).take count := by
  induction payloads generalizing prevHash count with
  | nil => simp [chainTexts]
  | cons payload rest ih =>
      cases count with
      | zero => simp [chainTexts]
      | succ count => rw [List.take_succ_cons, chainTexts, chainTexts, List.take_succ_cons, ih]

variable [LawfulSha256]

/-- Two chains of one length with the same end start with the same hash and agree entry by entry. -/
theorem chainHash_determines {prevHash otherHash : String} (length : prevHash.length = 64)
    (otherLength : otherHash.length = 64) {first second : List AuditPayload}
    (lengths : first.length = second.length)
    (firstFloatless : ∀ payload ∈ first, payload.Floatless)
    (secondFloatless : ∀ payload ∈ second, payload.Floatless) {texts : List String}
    (separates : Sha256.Separates texts) (firstAmong : chainTexts prevHash first ⊆ texts)
    (secondAmong : chainTexts otherHash second ⊆ texts)
    (ends : chainHash prevHash first = chainHash otherHash second) :
    prevHash = otherHash ∧
      List.Forall₂ (fun payload other => payload.json.Agrees other.json) first second := by
  induction first generalizing prevHash otherHash second with
  | nil =>
      obtain rfl := List.length_eq_zero_iff.mp lengths.symm
      exact ⟨ends, .nil⟩
  | cons payload rest ih =>
      cases second with
      | nil => exact absurd lengths (by simp)
      | cons other others =>
          rw [List.forall_mem_cons] at firstFloatless secondFloatless
          rw [chainTexts, List.cons_subset] at firstAmong secondAmong
          obtain ⟨same, agree⟩ := ih (LawfulSha256.length_hexdigest _)
            (LawfulSha256.length_hexdigest _) (Nat.succ.inj lengths) firstFloatless.2
            secondFloatless.2 firstAmong.2 secondAmong.2 ends
          have texts := congrArg String.toList (separates _ firstAmong.1 _ secondAmong.1 same)
          rw [String.toList_append, String.toList_append] at texts
          have aligned : prevHash.toList.length = otherHash.toList.length := by
            rw [String.length_toList, String.length_toList, length, otherLength]
          obtain ⟨prev, canonical⟩ := List.append_inj texts aligned
          refine ⟨String.toList_inj.mp prev, .cons ?_ agree⟩
          exact (canonicalJson_eq_iff firstFloatless.1.json secondFloatless.1.json).mp
            (String.toList_inj.mp canonical)

/-- Two chains of one length that end in the same hash hold the same payloads, and where two payloads
differ the hashes of these entries and of all later ones differ. -/
theorem chains_show_changes {first second : List AuditPayload}
    (lengths : first.length = second.length)
    (firstFloatless : ∀ payload ∈ first, payload.Floatless)
    (secondFloatless : ∀ payload ∈ second, payload.Floatless)
    (separates : Sha256.Separates
      (chainTexts genesisHash first ++ chainTexts genesisHash second)) :
    (chainHash genesisHash first = chainHash genesisHash second →
      List.Forall₂ (fun payload other => payload.json.Agrees other.json) first second) ∧
    ∀ index payload other, first[index]? = some payload → second[index]? = some other →
      ¬ payload.json.Agrees other.json → ∀ later, index ≤ later → later < first.length →
        entryHash first later ≠ entryHash second later := by
  have zeros : genesisHash.length = 64 := by decide
  have determined (count : Nat)
      (ends : chainHash genesisHash (first.take count) = chainHash genesisHash (second.take count)) :
      List.Forall₂ (fun payload other => payload.json.Agrees other.json) (first.take count)
        (second.take count) := by
    refine (chainHash_determines zeros zeros (by simp [lengths])
      (fun payload inside => firstFloatless payload (List.mem_of_mem_take inside))
      (fun payload inside => secondFloatless payload (List.mem_of_mem_take inside)) separates
      ?_ ?_ ends).2
    · rw [chainTexts_take]
      exact List.subset_append_of_subset_left _ (List.take_subset _ _)
    · rw [chainTexts_take]
      exact List.subset_append_of_subset_right _ (List.take_subset _ _)
  constructor
  · intro ends
    have whole := determined first.length
    rw [List.take_length, lengths, List.take_length] at whole
    exact whole ends
  · intro index payload other found otherFound differ later after inside ends
    have agree := determined (later + 1) ends
    have place : index < later + 1 := Nat.lt_succ_of_le after
    have atFirst : (first.take (later + 1))[index]? = some payload := by
      rw [List.getElem?_take_of_lt place, found]
    have atSecond : (second.take (later + 1))[index]? = some other := by
      rw [List.getElem?_take_of_lt place, otherFound]
    obtain ⟨within, rfl⟩ := List.getElem?_eq_some_iff.mp atFirst
    obtain ⟨otherWithin, rfl⟩ := List.getElem?_eq_some_iff.mp atSecond
    exact differ (agree.get within otherWithin)

end Chains

section Examples

/-- The payload of an approval at time 6. -/
def approvalPayload : AuditPayload :=
  approvalCall.payloadAt (some (statusDict "pending_approval")) (some (statusDict "provisioning")) 6

/-- The same payload with another action. -/
def rejectionPayload : AuditPayload := { approvalPayload with action := "rotation.rejected" }

/-- The entry behind both. -/
def completionPayload : AuditPayload := { approvalPayload with action := "rotation.completed" }

theorem approvalPayload_floatless : approvalPayload.Floatless :=
  ⟨⟨trivial, trivial⟩, trivial, trivial⟩

theorem rejection_differs : ¬ approvalPayload.json.Agrees rejectionPayload.json :=
  fun agree => absurd (AuditPayload.agrees_iff.mp agree).1 (by decide)

/-- The first text of a chain. -/
def firstText (payload : AuditPayload) : String := genesisHash ++ canonicalJson payload.json

/-- The text behind a hash of equal digits. -/
def textBehind (digit : Char) : String :=
  String.ofList (List.replicate 64 digit) ++ canonicalJson completionPayload.json

/-- The digits of a digest that tells four texts apart. -/
def chainDigit (text : String) : Char :=
  if text = firstText approvalPayload then 'a'
  else if text = firstText rejectionPayload then 'b'
  else if text = textBehind 'a' then 'c'
  else 'd'

abbrev digitDigest : Sha256 where
  hexdigest text := String.ofList (List.replicate 64 (chainDigit text))

theorem digitDigest_lawful : @LawfulSha256 digitDigest := by
  refine @LawfulSha256.mk digitDigest fun text => ?_
  change (String.ofList (List.replicate 64 (chainDigit text))).length = 64
  rw [String.length_ofList, List.length_replicate]

theorem firstText_ne : firstText rejectionPayload ≠ firstText approvalPayload := by
  intro same
  have texts := congrArg String.toList same
  rw [firstText, firstText, String.toList_append, String.toList_append,
    List.append_cancel_left_eq] at texts
  have floatless : rejectionPayload.Floatless :=
    ⟨approvalPayload_floatless.before, approvalPayload_floatless.after⟩
  have canonical : canonicalJson approvalPayload.json = canonicalJson rejectionPayload.json :=
    String.toList_inj.mp texts.symm
  exact rejection_differs
    ((canonicalJson_eq_iff approvalPayload_floatless.json floatless.json).mp canonical)

theorem textBehind_ne {digit : Char} (other : digit ≠ '0') (payload : AuditPayload) :
    textBehind digit ≠ firstText payload := by
  intro same
  have starts : List.replicate 64 digit = List.replicate 64 '0' := starts_eq (by simp) same
  exact other (List.replicate_right_injective (by decide) starts)

theorem textBehind_injective {digit other : Char} (same : textBehind digit = textBehind other) :
    digit = other :=
  List.replicate_right_injective (by decide) (starts_eq (by simp) same)

theorem chainDigits : chainDigit (firstText approvalPayload) = 'a' ∧
    chainDigit (firstText rejectionPayload) = 'b' ∧ chainDigit (textBehind 'a') = 'c' ∧
      chainDigit (textBehind 'b') = 'd' := by
  refine ⟨?_, ?_, ?_, ?_⟩
  · rw [chainDigit, if_pos rfl]
  · rw [chainDigit, if_neg firstText_ne, if_pos rfl]
  · rw [chainDigit, if_neg (textBehind_ne (by decide) _), if_neg (textBehind_ne (by decide) _),
      if_pos rfl]
  · rw [chainDigit, if_neg (textBehind_ne (by decide) _), if_neg (textBehind_ne (by decide) _),
      if_neg fun same => absurd (textBehind_injective same) (by decide)]

/-- The digest tells texts with different digits apart. -/
theorem digitDigest_separates {texts : List String} (apart : (texts.map chainDigit).Nodup) :
    @Sha256.Separates digitDigest texts := by
  intro first inFirst second inSecond same
  have digits : chainDigit first = chainDigit second :=
    List.replicate_right_injective (n := 64) (by decide) (String.ofList_injective same)
  exact List.inj_on_of_nodup_map apart inFirst inSecond digits

theorem chains_separate : @Sha256.Separates digitDigest
    (@chainTexts digitDigest genesisHash [approvalPayload, completionPayload] ++
      @chainTexts digitDigest genesisHash [rejectionPayload, completionPayload]) := by
  obtain ⟨approval, rejection, behind, other⟩ := chainDigits
  have texts : @chainTexts digitDigest genesisHash [approvalPayload, completionPayload] ++
      @chainTexts digitDigest genesisHash [rejectionPayload, completionPayload] =
        [firstText approvalPayload, textBehind (chainDigit (firstText approvalPayload)),
          firstText rejectionPayload, textBehind (chainDigit (firstText rejectionPayload))] := rfl
  rw [texts, approval, rejection]
  apply digitDigest_separates
  rw [List.map_cons, List.map_cons, List.map_cons, List.map_cons, List.map_nil, approval, behind,
    rejection, other]
  decide

/-- A rejection in the place of an approval shows in the hash of the entry behind it. -/
theorem rejection_shows :
    @entryHash digitDigest [approvalPayload, completionPayload] 1 ≠
      @entryHash digitDigest [rejectionPayload, completionPayload] 1 := by
  have floatless (action : String) : AuditPayload.Floatless { approvalPayload with action } :=
    ⟨approvalPayload_floatless.before, approvalPayload_floatless.after⟩
  have first : ∀ payload ∈ [approvalPayload, completionPayload], payload.Floatless :=
    List.forall_mem_cons.mpr ⟨floatless _, List.forall_mem_singleton.mpr (floatless _)⟩
  have second : ∀ payload ∈ [rejectionPayload, completionPayload], payload.Floatless :=
    List.forall_mem_cons.mpr ⟨floatless _, List.forall_mem_singleton.mpr (floatless _)⟩
  exact (@chains_show_changes digitDigest digitDigest_lawful
    [approvalPayload, completionPayload] [rejectionPayload, completionPayload] rfl first second
    chains_separate).2 0 approvalPayload rejectionPayload rfl rfl rejection_differs 1 (by decide)
    (by decide)

end Examples

end Sprawl
