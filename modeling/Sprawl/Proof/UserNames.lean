/-
This file proves for which ARNs of users the connector calls IAM with the name of the user.
-/

import Sprawl.Connectors.IamCalls

namespace Sprawl

open Effect

section Extraction

variable {pattern word rest block : List Char}

/-- A block without the first character of the pattern is skipped. -/
theorem behindFirst_block {first : Char} (plain : first ∉ block) :
    behindFirst (first :: pattern) (block ++ rest) = behindFirst (first :: pattern) rest := by
  induction block with
  | nil => rfl
  | cons char block ih =>
      rw [List.mem_cons, not_or] at plain
      have other : (first == char) = false := beq_false_of_ne plain.1
      rw [List.cons_append, behindFirst, List.isPrefixOf, other, Bool.false_and,
        if_neg Bool.false_ne_true]
      exact ih plain.2

/-- A word without a separator that a text starts with ends before the separator. -/
theorem prefix_block {separator : Char} (free : separator ∉ word)
    (starts : word <+: block ++ separator :: rest) : word <+: block := by
  obtain inside | ⟨tail, rfl⟩ :=
    List.prefix_or_prefix_of_prefix starts (List.prefix_append block (separator :: rest))
  · exact inside
  · rw [List.prefix_append_right_inj] at starts
    cases tail with
    | nil => rw [List.append_nil]
    | cons char tail =>
        obtain ⟨rfl, _⟩ := List.cons_prefix_cons.mp starts
        exact absurd (List.mem_append_right block List.mem_cons_self) free

/-- The characters of `:user/`. -/
def userMarker : List Char := [':', 'u', 's', 'e', 'r', '/']

/-- A block without a colon and a slash between two colons has no marker in it. -/
theorem behindFirst_between (plain : ':' ∉ block ∧ '/' ∉ block) :
    behindFirst userMarker (':' :: (block ++ ':' :: rest)) =
      behindFirst userMarker (':' :: rest) := by
  have none : userMarker.isPrefixOf (':' :: (block ++ ':' :: rest)) = false := by
    rw [Bool.eq_false_iff, ne_eq, List.isPrefixOf_iff_prefix]
    intro starts
    have word : ['u', 's', 'e', 'r', '/'] <+: block :=
      prefix_block (by decide) (List.cons_prefix_cons.mp starts).2
    exact plain.2 (word.subset (by decide))
  rw [behindFirst, none, if_neg Bool.false_ne_true]
  exact behindFirst_block plain.1

theorem behindFirst_marker : behindFirst userMarker (userMarker ++ rest) = some rest := by
  have starts : userMarker.isPrefixOf (userMarker ++ rest) = true :=
    List.isPrefixOf_iff_prefix.mpr (List.prefix_append _ _)
  exact if_pos starts

end Extraction

/-- An ARN of an IAM user. The path lies between the type and the name. -/
structure UserArn where
  partition : List Char
  account : List Char
  path : List (List Char)
  name : List Char
  plainPartition : ':' ∉ partition ∧ '/' ∉ partition
  plainAccount : ':' ∉ account ∧ '/' ∉ account
  segments : ∀ segment ∈ path, segment ≠ [] ∧ '/' ∉ segment
  plainName : '/' ∉ name ∧ ':' ∉ name

namespace UserArn

variable (arn : UserArn)

/-- The path without its first slash. -/
def pathText : List Char := arn.path.flatMap fun segment => segment ++ ['/']

def chars : List Char :=
  ['a', 'r', 'n', ':'] ++ arn.partition ++ [':', 'i', 'a', 'm', ':', ':'] ++ arn.account ++
    userMarker ++ arn.pathText ++ arn.name

def text : String := String.ofList arn.chars

def userName : String := String.ofList arn.name

/-- The text behind the marker is the path and the name. -/
theorem extractUsername_text :
    extractUsername arn.text = some (String.ofList (arn.pathText ++ arn.name)) := by
  have blocks : arn.chars = ['a', 'r', 'n'] ++ ':' :: (arn.partition ++ ':' :: (['i', 'a', 'm'] ++
      ':' :: ([] ++ ':' :: (arn.account ++ (userMarker ++ (arn.pathText ++ arn.name)))))) := by
    simp [chars]
  have found : behindFirst userMarker arn.chars = some (arn.pathText ++ arn.name) := by
    rw [blocks]
    calc _ = behindFirst userMarker _ := behindFirst_block (by decide)
      _ = behindFirst userMarker _ := behindFirst_between arn.plainPartition
      _ = behindFirst userMarker _ := behindFirst_between (by decide)
      _ = behindFirst userMarker _ := behindFirst_between (by decide)
      _ = behindFirst userMarker _ := behindFirst_between arn.plainAccount
      _ = some _ := behindFirst_marker
  have marker : ":user/".toList = userMarker := String.toList_ofList
  rw [extractUsername, marker, text, String.toList_ofList, found]
  rfl

/-- The extracted text is the name exactly if there is no path. -/
theorem extracted_iff :
    String.ofList (arn.pathText ++ arn.name) = arn.userName ↔ arn.path = [] := by
  constructor
  · intro same
    have chars : arn.pathText ++ arn.name = arn.name := String.ofList_injective same
    have none : arn.pathText = [] := List.append_left_eq_self.mp chars
    rw [pathText, List.flatMap_eq_nil_iff] at none
    rw [List.eq_nil_iff_forall_not_mem]
    intro segment inside
    exact absurd (none segment inside) (List.append_ne_nil_of_right_ne_nil segment (by decide))
  · intro none
    rw [pathText, none]
    rfl

/-- A principal with the ARN. -/
def principal (accountId : String) : PrincipalRef where
  provider := "aws"
  principalType := "iam_user"
  arn := arn.text
  accountId := accountId

theorem extractUsername_principal (accountId : String) :
    extractUsername (arn.principal accountId).arn =
      some (String.ofList (arn.pathText ++ arn.name)) := arn.extractUsername_text

end UserArn

section Calls

variable {service : IamService} {username : String} {α : Type}

/-- The call has this `UserName` or none. -/
def NamesOnly (username : String) (request : IamRequest) : Prop :=
  ∀ named ∈ request.userName, named = username

theorem namesOnly_of_none {request : IamRequest} (nobody : request.userName = none) :
    NamesOnly username request := by
  intro named inside
  rw [nobody] at inside
  cases inside

theorem namesOnly_own {request : IamRequest} (own : request.userName = some username) :
    NamesOnly username request := by
  intro named inside
  rw [own] at inside
  exact (Option.some.inj inside).symm

theorem scan_names {made : IamCall} (answer : Except String α)
    (names : NamesOnly username (.read made)) :
    (service.scan made answer).Makes (NamesOnly username) :=
  Logged.makes_call _ names

theorem scanManagedPolicy_names (arn : String) :
    (service.scanManagedPolicy arn).Makes (NamesOnly username) := by
  refine Logged.makes_bind (Logged.makes_attempt ?_) fun _ => Logged.makes_pure _
  refine Logged.makes_bind (scan_names _ ?_) fun _ => scan_names _ ?_
  · exact namesOnly_of_none rfl
  · exact namesOnly_of_none rfl

theorem scanInlinePolicy_names (listed : String × PolicyDocument) :
    (service.scanInlinePolicy username listed).Makes (NamesOnly username) := by
  refine Logged.makes_bind (Logged.makes_attempt (scan_names _ ?_)) fun _ => Logged.makes_pure _
  exact namesOnly_own rfl

theorem scanPages_names {fetch : Nat → IamCall} {policy : α → IamService.Scan (List String)}
    (pages : ∀ page, NamesOnly username (.read (fetch page)))
    (policies : ∀ item, (policy item).Makes (NamesOnly username)) (page : Nat)
    (items : List (List α)) :
    (service.scanPages fetch policy page items).Makes (NamesOnly username) := by
  induction items generalizing page with
  | nil => exact Logged.makes_pure _
  | cons items rest ih =>
      refine Logged.makes_bind (scan_names _ (pages page)) fun _ => ?_
      refine Logged.makes_bind (Logged.makes_collect policies items) fun _ => ?_
      exact Logged.makes_bind (ih (page + 1)) fun _ => Logged.makes_pure _

theorem scanUser_names : (service.scanUser username).Makes (NamesOnly username) := by
  rw [IamService.scanUser]
  cases service.user? username with
  | none =>
      exact Logged.makes_bind (scan_names _ (namesOnly_own rfl)) fun _ => Logged.makes_raise _
  | some user =>
      have own (page : Nat) : NamesOnly username (.read (.listAttachedUserPolicies username page)) :=
        namesOnly_own rfl
      have inlined (page : Nat) : NamesOnly username (.read (.listUserPolicies username page)) :=
        namesOnly_own rfl
      refine Logged.makes_bind (scanPages_names own scanManagedPolicy_names _ _) fun _ => ?_
      exact Logged.makes_bind (scanPages_names inlined scanInlinePolicy_names _ _)
        fun _ => Logged.makes_pure _

/-- The first call for a user lists its attached policies. -/
theorem scanUser_lists :
    IamRequest.read (.listAttachedUserPolicies username 0) ∈ (service.scanUser username).calls := by
  rw [IamService.scanUser]
  cases service.user? username with
  | none => exact Logged.mem_calls_bind (List.mem_singleton_self _)
  | some user =>
      exact Logged.mem_calls_bind (Logged.mem_calls_bind (List.mem_singleton_self _))

/-- The calls of `enumerate_scope` name the user, and where there is a client one of them does. -/
structure ScopeNames (service : IamService) (principal : PrincipalRef) (username : String) :
    Prop where
  only : (service.scanScope principal).Makes (NamesOnly username)
  called : service.failure .client = none →
    ∃ request ∈ (service.scanScope principal).calls, request.userName = some username

/-- The call of `create_credential` that creates a key names the user. It follows a client that could
be built. -/
def KeyNames (state : IamKeys) (issue : IamKeys → AccessKey) (principal : PrincipalRef)
    (username : String) : Prop :=
  ∀ client, (state.requestCredential client issue principal).calls =
    .read .client :: if client.isOk then [.createAccessKey username] else []

theorem scopeNames_of_extracted {principal : PrincipalRef}
    (extracted : extractUsername principal.arn = some username) (present : username ≠ "") :
    ScopeNames service principal username := by
  have scanned : service.scanScope principal = do
      service.scan .client (.ok ())
      let entries ← service.scanUser username
      return (namedResources entries).map arnToResourceRef := by
    rw [IamService.scanScope, extracted]
    simp only [if_neg present]
  refine ⟨?_, fun client => ?_⟩
  · rw [scanned]
    refine Logged.makes_bind (scan_names _ ?_) fun _ => ?_
    · exact namesOnly_of_none rfl
    · exact Logged.makes_bind scanUser_names fun _ => Logged.makes_pure _
  · have answered : (service.scan .client (.ok ())).result = .ok () := by
      rw [IamService.scan, Logged.result_call, IamService.call, client]
    refine ⟨.read (.listAttachedUserPolicies username 0), ?_, rfl⟩
    rw [scanned]
    exact Logged.mem_calls_bind_ok answered (Logged.mem_calls_bind scanUser_lists)

theorem requestCredential_calls {state : IamKeys} {issue : IamKeys → AccessKey}
    {principal : PrincipalRef} (extracted : extractUsername principal.arn = some username)
    (client : Except String Unit) :
    (state.requestCredential client issue principal).calls =
      if username = "" then []
      else .read .client :: if client.isOk then [.createAccessKey username] else [] := by
  rw [IamKeys.requestCredential, extracted]
  by_cases empty : username = ""
  · simp only [if_pos empty]
    rfl
  · simp only [if_neg empty]
    cases client with
    | error raised => rfl
    | ok built =>
        change IamRequest.read .client :: ([IamRequest.createAccessKey username] ++ _) = _
        cases (state.createAccessKey username (issue state)).1 <;> rfl

end Calls

section Names

variable (service : IamService) (state : IamKeys) (issue : IamKeys → AccessKey) (arn : UserArn)
  (accountId : String)

/-- The extracted text is the name of the user, and the callers take it. -/
theorem extracted_present_iff :
    (String.ofList (arn.pathText ++ arn.name) = arn.userName ∧
        String.ofList (arn.pathText ++ arn.name) ≠ "") ↔ arn.path = [] ∧ arn.name ≠ [] := by
  rw [arn.extracted_iff]
  refine and_congr_right fun none => not_congr ?_
  rw [arn.extracted_iff.mpr none, UserArn.userName, String.ofList_eq_empty_iff]

/-- `create_credential` names the user exactly if the ARN has no path. -/
theorem keyNames_iff :
    KeyNames state issue (arn.principal accountId) arn.userName ↔
      arn.path = [] ∧ arn.name ≠ [] := by
  rw [← extracted_present_iff, KeyNames]
  simp only [requestCredential_calls (arn.extractUsername_principal accountId)]
  constructor
  · intro names
    have built := names (.ok ())
    split at built
    · cases built
    · next present => exact ⟨by simpa [Except.isOk, Except.toBool] using built, present⟩
  · rintro ⟨same, present⟩ client
    rw [if_neg present, same]

/-- Both callers name the user exactly if the ARN has no path. -/
theorem userNames_iff :
    (ScopeNames service (arn.principal accountId) arn.userName ∧
        KeyNames state issue (arn.principal accountId) arn.userName) ↔
      arn.path = [] ∧ arn.name ≠ [] := by
  rw [keyNames_iff]
  refine and_iff_right_of_imp fun given => ?_
  obtain ⟨same, present⟩ := (extracted_present_iff arn).mpr given
  rw [← same]
  exact scopeNames_of_extracted (arn.extractUsername_principal accountId) present

end Names

section Example

/-- A user under a path. -/
def teamUser : UserArn where
  partition := ['a', 'w', 's']
  account := ['1', '2', '3']
  path := [['d', 'i', 'v'], ['t', 'e', 'a', 'm']]
  name := ['c', 'i']
  plainPartition := by decide
  plainAccount := by decide
  segments := by decide
  plainName := by decide

/-- IAM without users. -/
def noUsers : IamService where
  account := { users := [], policies := [] }
  failure _ := none

def noKeys : IamKeys where
  users _ := none

def plainKey : IamKeys → AccessKey := fun _ => { id := "AKIA", secret := "secret" }

/-- The path comes along with the name. -/
theorem teamUser_misnamed :
    teamUser.text = "arn:aws:iam::123:user/div/team/ci" ∧ teamUser.userName = "ci" ∧
      (noUsers.scanScope (teamUser.principal "123")).calls =
        [.read .client, .read (.listAttachedUserPolicies "div/team/ci" 0)] ∧
      (noKeys.requestCredential (.ok ()) plainKey (teamUser.principal "123")).calls =
        [.read .client, .createAccessKey "div/team/ci"] ∧
      ¬ (ScopeNames noUsers (teamUser.principal "123") teamUser.userName ∧
        KeyNames noKeys plainKey (teamUser.principal "123") teamUser.userName) := by
  refine ⟨rfl, rfl, by decide, by decide, fun names => ?_⟩
  have plain := (keyNames_iff noKeys plainKey teamUser "123").mp names.2
  exact absurd plain.1 (by decide)

end Example

end Sprawl
