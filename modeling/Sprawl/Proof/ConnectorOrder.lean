/-
This file proves when ingest builds the same context for every order of the connector rows.
-/

import Sprawl.Effect.Overwriting
import Sprawl.Investigation.Nodes

namespace Sprawl

open Effect

section Cells

/-- The fields of a context that Vault connectors set. -/
structure VaultCell where
  addr : Option Json
  roleId : Option Json
  secretId : Option Json
  storePath : Option Json

/-- The fields that a connector with a principal sets. -/
structure PrincipalCell where
  arn : Option Json
  principalType : Option Json
  accountId : Option Json

/-- The fields that connectors set. -/
structure ConnectorCells where
  vault : VaultCell
  role : Option Json × Option Json
  principal : PrincipalCell
  token : Option Json

def IngestContext.cells (context : IngestContext) : ConnectorCells where
  vault :=
    { addr := context.vaultAddr, roleId := context.vaultRoleId, secretId := context.vaultSecretId
      storePath := context.storePath }
  role := (context.awsRoleArn, context.awsExternalId)
  principal :=
    { arn := context.principalArn, principalType := context.principalType
      accountId := context.accountId }
  token := context.githubToken

def IngestContext.withCells (context : IngestContext) (cells : ConnectorCells) : IngestContext :=
  { context with
    vaultAddr := cells.vault.addr
    vaultRoleId := cells.vault.roleId
    vaultSecretId := cells.vault.secretId
    storePath := cells.vault.storePath
    awsRoleArn := cells.role.1
    awsExternalId := cells.role.2
    principalArn := cells.principal.arn
    principalType := cells.principal.principalType
    accountId := cells.principal.accountId
    githubToken := cells.token }

namespace ConnectorRow

def vaultWrite (row : ConnectorRow) : Option VaultCell :=
  if row.type = "vault" then
    some {
      addr := row.connection.get? "addr"
      roleId := row.connection.get? "role_id"
      secretId := row.connection.get? "secret_id"
      storePath := row.storePath }
  else none

def roleWrite (row : ConnectorRow) : Option (Option Json × Option Json) :=
  if row.type = "aws_iam" then
    some (row.connection.get? "role_arn", row.connection.get? "external_id")
  else none

/-- The row is one of AWS and names a principal. -/
def NamesPrincipal (row : ConnectorRow) : Prop :=
  row.type = "aws_iam" ∧ (row.connection.get? "principal_arn").any Json.truthy = true

instance (row : ConnectorRow) : Decidable row.NamesPrincipal :=
  inferInstanceAs (Decidable (_ ∧ _))

def principalWrite (row : ConnectorRow) : Option PrincipalCell :=
  if row.NamesPrincipal then
    some {
      arn := row.connection.get? "principal_arn"
      principalType := some (.str "iam_user")
      accountId := row.connection.getOr "account_id" "" }
  else none

def tokenWrite (row : ConnectorRow) : Option (Option Json) :=
  if row.type = "github" then some (row.connection.get? "token") else none

end ConnectorRow

/-- Each group of fields is a cell of its own, with its last write. -/
def ConnectorCells.behind (cells : ConnectorCells) (rows : List ConnectorRow) : ConnectorCells where
  vault := lastWrite ConnectorRow.vaultWrite cells.vault rows
  role := lastWrite ConnectorRow.roleWrite cells.role rows
  principal := lastWrite ConnectorRow.principalWrite cells.principal rows
  token := lastWrite ConnectorRow.tokenWrite cells.token rows

theorem withConnector_cells (context : IngestContext) (row : ConnectorRow) :
    context.withConnector row = context.withCells (context.cells.behind [row]) := by
  simp only [ConnectorCells.behind, lastWrite_cons, lastWrite_nil, ConnectorRow.vaultWrite,
    ConnectorRow.roleWrite, ConnectorRow.principalWrite, ConnectorRow.tokenWrite,
    IngestContext.withConnector, ConnectorRow.NamesPrincipal]
  by_cases vault : row.type = "vault"
  · simp [vault, IngestContext.withCells, IngestContext.cells, ConnectorRow.storePath]
  · by_cases aws : row.type = "aws_iam"
    · by_cases named : (row.connection.get? "principal_arn").any Json.truthy = true
      · simp [aws, named, IngestContext.withCells, IngestContext.cells]
      · simp [aws, named, IngestContext.withCells, IngestContext.cells]
    · by_cases github : row.type = "github"
      · simp [github, IngestContext.withCells, IngestContext.cells]
      · simp [vault, aws, github, IngestContext.withCells, IngestContext.cells]

/-- All rows in turn set the cells to their last writes. -/
theorem connected_cells (rows : List ConnectorRow) (context : IngestContext) :
    rows.foldl IngestContext.withConnector context =
      context.withCells (context.cells.behind rows) := by
  induction rows generalizing context with
  | nil => rfl
  | cons row rest ih =>
      rw [List.foldl_cons, ih, withConnector_cells]
      rfl

end Cells

section References

variable (references : Option (Option Document × Option Document))

/-- The store path of the references stands in for one that is absent or empty. -/
def pathBeside (path : Option Json) : Option Json :=
  let stored := ((references.bind (·.2)).getD []).get? "path"
  if stored.any Json.truthy && !path.any Json.truthy then stored else path

/-- The principal of the references stands in for one that is absent or empty. -/
def principalBeside (cell : PrincipalCell) : PrincipalCell :=
  let known := (references.bind (·.1)).getD []
  if (known.get? "arn").any Json.truthy && !cell.arn.any Json.truthy then
    { arn := known.get? "arn"
      principalType := known.getOr "principal_type" "iam_user"
      accountId := known.getOr "account_id" "" }
  else cell

def VaultCell.beside (cell : VaultCell) : VaultCell :=
  { cell with storePath := pathBeside references cell.storePath }

def ConnectorCells.beside (cells : ConnectorCells) : ConnectorCells :=
  { cells with
    vault := cells.vault.beside references
    principal := principalBeside references cells.principal }

theorem withReferences_cells (context : IngestContext) (cells : ConnectorCells) :
    references.elim (context.withCells cells) (context.withCells cells).withReferences =
      context.withCells (cells.beside references) := by
  cases references with
  | none => rfl
  | some found =>
      simp only [Option.elim_some, IngestContext.withReferences, ConnectorCells.beside,
        VaultCell.beside, pathBeside, principalBeside, Option.bind_some]
      by_cases known : ((found.1.getD []).get? "arn").any Json.truthy &&
          !cells.principal.arn.any Json.truthy
      · by_cases stored : ((found.2.getD []).get? "path").any Json.truthy &&
            !cells.vault.storePath.any Json.truthy
        · simp [known, stored, IngestContext.withCells]
        · simp [known, stored, IngestContext.withCells]
      · by_cases stored : ((found.2.getD []).get? "path").any Json.truthy &&
            !cells.vault.storePath.any Json.truthy
        · simp [known, stored, IngestContext.withCells]
        · simp [known, stored, IngestContext.withCells]

end References

section Order

/-- The context that ingest has before it reads the connectors. -/
def loadedContext {F : Type} (answers : IngestAnswers) (secret : SecretRow)
    (state : InvestigationState F) : IngestContext where
  secretId := state.secretId
  workspaceId := state.workspaceId
  investigationId := state.investigationId
  secretType := orElseText (some secret.type) "unknown"
  environment := secret.environment.value
  exposureStatus := secret.exposureStatus.value
  health := secret.health.value
  provider := orElseText secret.provider "unknown"
  locations := answers.findings.filterMap FindingRow.location?

/-- The connectors and the references leave the cells of a context like this. -/
def finalCells (rows : List ConnectorRow)
    (references : Option (Option Document × Option Document)) : ConnectorCells :=
  (ConnectorCells.behind ⟨⟨none, none, none, none⟩, (none, none), ⟨none, none, none⟩, none⟩
    rows).beside references

variable {F : Type} {answers : IngestAnswers} {state : InvestigationState F}

theorem ingestContext_cells {secret : SecretRow} (found : answers.secret = some secret) :
    ingestContext answers state =
      some ((loadedContext answers secret state).withCells
        (finalCells answers.connectors answers.references)) := by
  rw [ingestContext, found, Option.map_some]
  dsimp only
  rw [connected_cells, withReferences_cells]
  rfl

/-- Connectors of one type agree in what ingest takes from them. For the store path, this is the
one beside that of the references. -/
structure ConnectorsAgree (rows : List ConnectorRow)
    (references : Option (Option Document × Option Document)) : Prop where
  vault : ∀ first ∈ rows, ∀ second ∈ rows, first.type = "vault" → second.type = "vault" →
    first.connection.get? "addr" = second.connection.get? "addr" ∧
      first.connection.get? "role_id" = second.connection.get? "role_id" ∧
      first.connection.get? "secret_id" = second.connection.get? "secret_id" ∧
      pathBeside references first.storePath = pathBeside references second.storePath
  role : ∀ first ∈ rows, ∀ second ∈ rows, first.type = "aws_iam" → second.type = "aws_iam" →
    first.connection.get? "role_arn" = second.connection.get? "role_arn" ∧
      first.connection.get? "external_id" = second.connection.get? "external_id"
  principal : ∀ first ∈ rows, ∀ second ∈ rows, first.NamesPrincipal → second.NamesPrincipal →
    first.connection.get? "principal_arn" = second.connection.get? "principal_arn" ∧
      first.connection.getOr "account_id" "" = second.connection.getOr "account_id" ""
  token : ∀ first ∈ rows, ∀ second ∈ rows, first.type = "github" → second.type = "github" →
    first.connection.get? "token" = second.connection.get? "token"

section Agree

variable {rows : List ConnectorRow} {references : Option (Option Document × Option Document)}

/-- A write that takes place under a condition. -/
theorem writesAgree_ite {β γ : Type} {condition : ConnectorRow → Prop} [DecidablePred condition]
    {value : ConnectorRow → β} {seen : β → γ} :
    WritesAgree (fun row => if condition row then some (value row) else none) seen rows ↔
      ∀ first ∈ rows, ∀ second ∈ rows, condition first → condition second →
        seen (value first) = seen (value second) := by
  simp only [WritesAgree, Option.mem_def, Option.ite_none_right_eq_some, Option.some.injEq]
  refine forall₄_congr fun first _ second _ => ?_
  constructor
  · exact fun agree fits also => agree _ ⟨fits, rfl⟩ _ ⟨also, rfl⟩
  · rintro agree _ ⟨fits, rfl⟩ _ ⟨also, rfl⟩
    exact agree fits also

theorem principalBeside_named {row : ConnectorRow} (named : row.NamesPrincipal)
    (principalType accountId : Option Json) :
    principalBeside references
        ⟨row.connection.get? "principal_arn", principalType, accountId⟩ =
      ⟨row.connection.get? "principal_arn", principalType, accountId⟩ := by
  rw [principalBeside, if_neg]
  simp [named.2]

theorem connectorsAgree_iff : ConnectorsAgree rows references ↔
    WritesAgree ConnectorRow.vaultWrite (VaultCell.beside references) rows ∧
      WritesAgree ConnectorRow.roleWrite id rows ∧
      WritesAgree ConnectorRow.principalWrite (principalBeside references) rows ∧
      WritesAgree ConnectorRow.tokenWrite id rows := by
  have vault : WritesAgree ConnectorRow.vaultWrite (VaultCell.beside references) rows ↔ _ :=
    writesAgree_ite
  have role : WritesAgree ConnectorRow.roleWrite id rows ↔ _ := writesAgree_ite
  have principal :
      WritesAgree ConnectorRow.principalWrite (principalBeside references) rows ↔ _ :=
    writesAgree_ite
  have token : WritesAgree ConnectorRow.tokenWrite id rows ↔ _ := writesAgree_ite
  rw [vault, role, principal, token]
  simp only [VaultCell.beside, VaultCell.mk.injEq, id_eq, Prod.mk.injEq]
  have named : (∀ first ∈ rows, ∀ second ∈ rows, first.NamesPrincipal → second.NamesPrincipal →
        principalBeside references ⟨first.connection.get? "principal_arn", some (.str "iam_user"),
            first.connection.getOr "account_id" ""⟩ =
          principalBeside references ⟨second.connection.get? "principal_arn", some (.str "iam_user"),
            second.connection.getOr "account_id" ""⟩) ↔
      ∀ first ∈ rows, ∀ second ∈ rows, first.NamesPrincipal → second.NamesPrincipal →
        first.connection.get? "principal_arn" = second.connection.get? "principal_arn" ∧
          first.connection.getOr "account_id" "" = second.connection.getOr "account_id" "" := by
    refine forall₄_congr fun first _ second _ => forall₂_congr fun fits also => ?_
    rw [principalBeside_named fits, principalBeside_named also, PrincipalCell.mk.injEq]
    simp
  rw [named]
  constructor
  · exact fun agree => ⟨agree.vault, agree.role, agree.principal, agree.token⟩
  · exact fun agree => ⟨agree.1, agree.2.1, agree.2.2.1, agree.2.2.2⟩

/-- The cells are the same behind every order exactly if the connectors of each type agree. -/
theorem finalCells_perm_iff :
    (∀ other, other.Perm rows → finalCells other references = finalCells rows references) ↔
      ConnectorsAgree rows references := by
  rw [connectorsAgree_iff, ← lastWrite_perm_iff _ _ ⟨none, none, none, none⟩,
    ← lastWrite_perm_iff ConnectorRow.roleWrite _ (none, none),
    ← lastWrite_perm_iff _ _ ⟨none, none, none⟩,
    ← lastWrite_perm_iff ConnectorRow.tokenWrite _ none]
  simp only [finalCells, ConnectorCells.beside, ConnectorCells.behind, ConnectorCells.mk.injEq,
    forall_and, id_eq]

theorem roleWrite_mem {row : ConnectorRow} {role : Option Json × Option Json}
    (written : role ∈ row.roleWrite) : row.type = "aws_iam" ∧
      role = (row.connection.get? "role_arn", row.connection.get? "external_id") := by
  rw [ConnectorRow.roleWrite, Option.mem_def, Option.ite_none_right_eq_some] at written
  exact ⟨written.1, (Option.some.inj written.2).symm⟩

theorem principalWrite_mem (references : Option (Option Document × Option Document))
    {row : ConnectorRow} {cell : PrincipalCell}
    (written : cell ∈ row.principalWrite) : row.NamesPrincipal ∧
      principalBeside references cell = cell ∧
        cell.arn = row.connection.get? "principal_arn" := by
  rw [ConnectorRow.principalWrite, Option.mem_def, Option.ite_none_right_eq_some] at written
  obtain ⟨named, same⟩ := written
  rw [← Option.some.inj same]
  exact ⟨named, principalBeside_named named _ _, rfl⟩

theorem roleWrite_ne_none {row : ConnectorRow} (aws : row.type = "aws_iam") :
    row.roleWrite ≠ none := by
  simp [ConnectorRow.roleWrite, aws]

theorem principalWrite_ne_none {row : ConnectorRow} (named : row.NamesPrincipal) :
    row.principalWrite ≠ none := by
  simp [ConnectorRow.principalWrite, named]

end Agree

/-- One AWS connector has the role, the external id and, if one of them names a principal, the
principal of the context. -/
def IngestContext.TakenFromOneRow (context : IngestContext) (rows : List ConnectorRow) : Prop :=
  (∃ row ∈ rows, row.type = "aws_iam") → ∃ row ∈ rows, row.type = "aws_iam" ∧
    context.awsRoleArn = row.connection.get? "role_arn" ∧
    context.awsExternalId = row.connection.get? "external_id" ∧
    ((∃ other ∈ rows, other.NamesPrincipal) →
      context.principalArn = row.connection.get? "principal_arn")

/-- Connectors that agree are as good as one row. -/
theorem takenFromOneRow {rows : List ConnectorRow}
    {references : Option (Option Document × Option Document)} (context : IngestContext)
    (agree : ConnectorsAgree rows references) :
    (context.withCells (finalCells rows references)).TakenFromOneRow rows := by
  rintro ⟨row, inside, aws⟩
  obtain ⟨last, among, written⟩ := lastWrite_mem (none, none) inside (roleWrite_ne_none aws)
  obtain ⟨ofAws, role⟩ := roleWrite_mem written
  have roleOf : (finalCells rows references).role =
      (last.connection.get? "role_arn", last.connection.get? "external_id") := role
  by_cases naming : ∃ other ∈ rows, other.NamesPrincipal
  · obtain ⟨other, within, named⟩ := naming
    obtain ⟨chosen, member, taken⟩ :=
      lastWrite_mem ⟨none, none, none⟩ within (principalWrite_ne_none named)
    obtain ⟨names, beside, arn⟩ := principalWrite_mem references taken
    have principalOf : (finalCells rows references).principal.arn =
        chosen.connection.get? "principal_arn" := (congrArg PrincipalCell.arn beside).trans arn
    obtain ⟨sameRole, sameId⟩ := agree.role last among chosen member ofAws names.1
    exact ⟨chosen, member, names.1, (congrArg Prod.fst roleOf).trans sameRole,
      (congrArg Prod.snd roleOf).trans sameId, fun _ => principalOf⟩
  · exact ⟨last, among, ofAws, congrArg Prod.fst roleOf, congrArg Prod.snd roleOf,
      fun named => absurd named naming⟩

/-- Ingest does not depend on the order of the connector rows, and takes the fields of AWS from one
of them. -/
structure OrderFree (answers : IngestAnswers) (state : InvestigationState F) : Prop where
  same : ∀ rows, rows.Perm answers.connectors →
    ingestContext { answers with connectors := rows } state = ingestContext answers state
  oneRow : ∀ context ∈ ingestContext answers state, context.TakenFromOneRow answers.connectors

theorem ingestContext_same_iff {secret : SecretRow} (found : answers.secret = some secret)
    (rows : List ConnectorRow) :
    ingestContext { answers with connectors := rows } state = ingestContext answers state ↔
      finalCells rows answers.references = finalCells answers.connectors answers.references := by
  have reordered : ingestContext { answers with connectors := rows } state = _ :=
    ingestContext_cells found
  rw [ingestContext_cells found, reordered]
  constructor
  · intro same
    exact congrArg IngestContext.cells (Option.some.inj same)
  · intro same
    dsimp only
    rw [same]
    rfl

/-- Ingest depends on the order exactly if it finds the secret and connectors of one type differ. -/
theorem ingest_orderFree_iff (answers : IngestAnswers) (state : InvestigationState F) :
    OrderFree answers state ↔
      answers.secret = none ∨ ConnectorsAgree answers.connectors answers.references := by
  cases found : answers.secret with
  | none =>
      refine iff_of_true ⟨?_, ?_⟩ (Or.inl rfl)
      · intro rows _
        rw [ingestContext, ingestContext, found]
        rfl
      · intro context built
        rw [ingestContext, found] at built
        cases built
  | some secret =>
      rw [or_iff_right (Option.some_ne_none secret), ← finalCells_perm_iff]
      constructor
      · exact fun free other perm =>
          (ingestContext_same_iff found other).mp (free.same other perm)
      · intro given
        refine ⟨fun rows perm => (ingestContext_same_iff found rows).mpr (given rows perm), ?_⟩
        intro context built
        rw [ingestContext_cells found] at built
        obtain rfl := Option.some.inj built
        exact takenFromOneRow _ (finalCells_perm_iff.mp given)

end Order

section Example

/-- An AWS connector. -/
def awsRow (connection : Document) : ConnectorRow where
  type := "aws_iam"
  connection := connection
  pathPrefix := none

/-- Two AWS connectors, of which only the first names a principal. -/
def twoAccounts : IngestAnswers where
  secret := some {
    type := "aws_access_key", provider := none, health := .unknown, environment := .prod
    exposureStatus := .unknown }
  findings := []
  connectors :=
    [awsRow [("role_arn", .str "arn:aws:iam::1:role/audit"),
      ("principal_arn", .str "arn:aws:iam::1:user/ci")],
    awsRow [("role_arn", .str "arn:aws:iam::2:role/audit")]]
  references := none

def emptyState : InvestigationState Rat where
  secretId := 1
  workspaceId := 2
  investigationId := 3

/-- The role and the principal of the context that ingest builds. -/
def roleAndPrincipal (answers : IngestAnswers) : Option (Option String × Option String) :=
  (ingestContext answers emptyState).map fun context =>
    (context.awsRoleArn.bind Json.text?, context.principalArn.bind Json.text?)

/-- The role is that of the last row, and the principal of the first account stays. -/
theorem twoAccounts_ordered :
    roleAndPrincipal twoAccounts =
      some (some "arn:aws:iam::2:role/audit", some "arn:aws:iam::1:user/ci") ∧
    roleAndPrincipal { twoAccounts with connectors := twoAccounts.connectors.reverse } =
      some (some "arn:aws:iam::1:role/audit", some "arn:aws:iam::1:user/ci") ∧
    ¬ OrderFree twoAccounts emptyState := by
  have mixed : roleAndPrincipal twoAccounts =
      some (some "arn:aws:iam::2:role/audit", some "arn:aws:iam::1:user/ci") := by decide
  have one : roleAndPrincipal { twoAccounts with connectors := twoAccounts.connectors.reverse } =
      some (some "arn:aws:iam::1:role/audit", some "arn:aws:iam::1:user/ci") := by decide
  refine ⟨mixed, one, fun free => ?_⟩
  have same := free.same twoAccounts.connectors.reverse (List.reverse_perm _)
  rw [roleAndPrincipal, same, ← roleAndPrincipal, mixed] at one
  exact absurd one (by decide)

end Example

end Sprawl
