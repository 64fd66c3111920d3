import Numbering.Proofs.Toml.Distinct
import Numbering.Toml.Document

/-! # Keys of a document

No table of a document has a key twice (`distinct_of_read?`). Inline tables grow field by field, the
document grows statement by statement, and both keep the keys distinct.
-/

namespace Numbering.Toml

/-! ## Values as they are written -/

section Scanning

variable {value : Value} {text rest : Text}

theorem distinct_of_wordValue? {number : Int} (read : wordValue? number = some value) :
    value.Distinct := by
  rw [wordValue?] at read
  split at read
  · cases read
    exact .integer number
  · cases read

theorem distinct_of_decimalFloat? {negative : Bool} (read : decimalFloat? negative text = some value) :
    value.Distinct := by
  obtain ⟨whole, -, read⟩ := Option.bind_eq_some_iff.mp read
  dsimp only at read
  split at read <;> obtain ⟨decimals, -, read⟩ := Option.bind_eq_some_iff.mp read <;>
    split at read <;> obtain ⟨exponent, -, read⟩ := Option.bind_eq_some_iff.mp read <;>
    split at read <;> cases read <;> exact .float _

theorem distinct_of_number? (read : number? text = some value) : value.Distinct := by
  have based {base : Nat} {digits : Text} (read : basedInteger? base digits = some value) :
      value.Distinct := by
    obtain ⟨digits, -, read⟩ := Option.bind_eq_some_iff.mp read
    exact distinct_of_wordValue? read
  unfold number? at read
  split at read
  case h_1 => exact based read
  case h_2 => exact based read
  case h_3 => exact based read
  case h_4 =>
    dsimp only at read
    split at read
    · cases read
      exact .float _
    split at read
    · cases read
      exact .float _
    split at read
    · exact distinct_of_decimalFloat? read
    · obtain ⟨digits, -, read⟩ := Option.bind_eq_some_iff.mp read
      exact distinct_of_wordValue? read

theorem distinct_of_plain? (read : plain? text = some value) : value.Distinct := by
  rw [plain?] at read
  split at read
  · cases read
    exact .boolean true
  split at read
  · cases read
    exact .boolean false
  · exact distinct_of_number? read

theorem distinct_of_scanPlain? (read : scanPlain? text = some (value, rest)) : value.Distinct := by
  rw [scanPlain?] at read
  split at read
  · cases read
    exact .datetime _
  · obtain ⟨plain, found, same⟩ := Option.map_eq_some_iff.mp read
    cases same
    exact distinct_of_plain? found

/-- What the scanning functions give within a bound of their own. -/
structure ScansDistinct (bound : Nat) : Prop where
  value : ∀ {depth : Nat} {text rest : Text} {value : Value},
    scanValue? bound depth text = some (value, rest) → value.Distinct
  items : ∀ {depth : Nat} {text rest : Text} {items : List Value},
    scanItems? bound depth text = some (items, rest) → ∀ item ∈ items, item.Distinct
  members : ∀ {depth : Nat} {text rest : Text} {fields result : Fields}, fields.Distinct →
    scanMembers? bound depth fields text = some (result, rest) → result.Distinct

namespace ScansDistinct

variable {bound depth : Nat} {items : List Value} {fields result : Fields}

theorem value_succ (shorter : ScansDistinct bound)
    (read : scanValue? (bound + 1) depth text = some (value, rest)) : value.Distinct := by
  unfold scanValue? at read
  split at read
  case h_1 quoted =>
    obtain ⟨⟨content, rest⟩, -, same⟩ := Option.map_eq_some_iff.mp read
    cases same
    exact .text content
  case h_2 =>
    split at read
    case h_1 inside =>
      split at read
      · obtain ⟨⟨items, rest⟩, scanned, same⟩ := Option.map_eq_some_iff.mp read
        cases same
        exact .array (shorter.items scanned)
      · cases read
    case h_2 inside =>
      split at read
      · split at read
        · cases read
          exact .ofFields .nil
        · obtain ⟨⟨fields, rest⟩, scanned, same⟩ := Option.bind_eq_some_iff.mp read
          cases same
          exact .ofFields (shorter.members .nil scanned)
      · cases read
    case h_3 => exact distinct_of_scanPlain? read

theorem items_succ (shorter : ScansDistinct bound)
    (read : scanItems? (bound + 1) depth text = some (items, rest)) :
    ∀ item ∈ items, item.Distinct := by
  rw [scanItems?] at read
  obtain ⟨inside, -, read⟩ := Option.bind_eq_some_iff.mp read
  split at read
  · cases read
    simp
  · obtain ⟨⟨first, behind⟩, scanned, read⟩ := Option.bind_eq_some_iff.mp read
    have sound := shorter.value scanned
    obtain ⟨mark, -, read⟩ := Option.bind_eq_some_iff.mp read
    dsimp only at read
    split at read
    · obtain ⟨⟨others, rest⟩, scanned, same⟩ := Option.bind_eq_some_iff.mp read
      cases same
      exact List.forall_mem_cons.mpr ⟨sound, shorter.items scanned⟩
    · cases read
      simpa using sound
    · cases read

theorem members_succ (shorter : ScansDistinct bound) (distinct : fields.Distinct)
    (read : scanMembers? (bound + 1) depth fields text = some (result, rest)) :
    result.Distinct := by
  rw [scanMembers?] at read
  obtain ⟨⟨path, key, behind⟩, -, read⟩ := Option.bind_eq_some_iff.mp read
  obtain ⟨behind, -, read⟩ := Option.bind_eq_some_iff.mp read
  obtain ⟨⟨value, behind⟩, scanned, read⟩ := Option.bind_eq_some_iff.mp read
  obtain ⟨grown, set, read⟩ := Option.bind_eq_some_iff.mp read
  have sound := distinct.setDotted? (shorter.value scanned) set
  split at read
  · exact shorter.members sound read
  · cases read
    exact sound
  · cases read

end ScansDistinct

theorem scansDistinct (bound : Nat) : ScansDistinct bound := by
  induction bound with
  | zero =>
    constructor
    · intro depth text rest value read
      cases read
    · intro depth text rest items read
      cases read
    · intro depth text rest fields result _ read
      cases read
  | succ bound shorter =>
    exact ⟨shorter.value_succ, shorter.items_succ, shorter.members_succ⟩

end Scanning

/-! ## Statement by statement -/

/-- A statement whose value, if it has one, has no key twice. -/
def Statement.Distinct : Statement → Prop
  | .field _ _ value => value.Distinct
  | .table _ _ => True
  | .element _ _ => True

theorem Statement.distinct_of_scan {text rest : Text} {statement : Statement}
    (read : scanStatement? text = some (statement, rest)) : statement.Distinct := by
  unfold scanStatement? at read
  split at read
  case h_1 =>
    obtain ⟨⟨path, key, behind⟩, -, read⟩ := Option.bind_eq_some_iff.mp read
    obtain ⟨behind, -, read⟩ := Option.bind_eq_some_iff.mp read
    obtain ⟨behind, -, same⟩ := Option.bind_eq_some_iff.mp read
    cases same
    trivial
  case h_2 =>
    obtain ⟨⟨path, key, behind⟩, -, read⟩ := Option.bind_eq_some_iff.mp read
    obtain ⟨behind, -, same⟩ := Option.bind_eq_some_iff.mp read
    cases same
    trivial
  case h_3 =>
    obtain ⟨⟨path, key, behind⟩, -, read⟩ := Option.bind_eq_some_iff.mp read
    obtain ⟨behind, -, read⟩ := Option.bind_eq_some_iff.mp read
    obtain ⟨⟨value, behind⟩, scanned, same⟩ := Option.bind_eq_some_iff.mp read
    cases same
    exact (scansDistinct _).value scanned

theorem distinct_of_scanStatements? {bound : Nat} {text : Text} {statements : List Statement}
    (read : scanStatements? bound text = some statements) :
    ∀ statement ∈ statements, statement.Distinct := by
  induction bound generalizing text statements with
  | zero => cases read
  | succ bound ih =>
    unfold scanStatements? at read
    split at read
    · cases read
      simp
    · split at read
      · exact ih read
      · obtain ⟨⟨first, behind⟩, scanned, read⟩ := Option.bind_eq_some_iff.mp read
        obtain ⟨behind, -, read⟩ := Option.bind_eq_some_iff.mp read
        obtain ⟨others, following, same⟩ := Option.bind_eq_some_iff.mp read
        cases same
        exact List.forall_mem_cons.mpr ⟨Statement.distinct_of_scan scanned, ih following⟩

/-- A statement keeps the keys of the document distinct. -/
theorem Fields.Distinct.add_statement? {root : Fields} {current : List Text} {statement : Statement}
    {next : Fields × List Text} (distinct : root.Distinct) (sound : statement.Distinct)
    (added : statement.add? root current = some next) : next.1.Distinct := by
  cases statement with
  | field path key value =>
    obtain ⟨root, set, rfl⟩ := Option.map_eq_some_iff.mp added
    exact distinct.atHeader? (fun before done => before.setDotted? sound done) set
  | table path key =>
    obtain ⟨root, opened, rfl⟩ := Option.map_eq_some_iff.mp added
    exact distinct.atHeader? Fields.Distinct.openTable? opened
  | element path key =>
    obtain ⟨root, opened, rfl⟩ := Option.map_eq_some_iff.mp added
    exact distinct.atHeader? Fields.Distinct.openElement? opened

theorem Fields.Distinct.foldlM_add? {statements : List Statement} {before after : Fields × List Text}
    (distinct : before.1.Distinct) (sound : ∀ statement ∈ statements, statement.Distinct)
    (added : statements.foldlM (fun (root, current) => Statement.add? root current) before =
      some after) :
    after.1.Distinct := by
  induction statements generalizing before with
  | nil =>
    cases added
    exact distinct
  | cons statement rest ih =>
    obtain ⟨first, others⟩ := List.forall_mem_cons.mp sound
    obtain ⟨next, one, added⟩ := Option.bind_eq_some_iff.mp added
    exact ih (distinct.add_statement? first one) others added

/-! ## The whole document -/

theorem map_fst_of_unwrapFields? {fields result : Fields}
    (unwrapped : unwrapFields? fields = some result) :
    result.map Prod.fst = fields.map Prod.fst := by
  induction fields generalizing result with
  | nil =>
    cases unwrapped
    rfl
  | cons field rest ih =>
    obtain ⟨value, -, unwrapped⟩ := Option.bind_eq_some_iff.mp unwrapped
    obtain ⟨others, following, same⟩ := Option.bind_eq_some_iff.mp unwrapped
    cases same
    rw [List.map_cons, List.map_cons, ih following]

mutual

theorem Value.Distinct.unwrap? {result : Value} : {value : Value} → value.Distinct →
    value.unwrap? = some result → result.Distinct
  | .text _, distinct, unwrapped => by cases unwrapped; exact distinct
  | .integer _, distinct, unwrapped => by cases unwrapped; exact distinct
  | .float _, distinct, unwrapped => by cases unwrapped; exact distinct
  | .boolean _, distinct, unwrapped => by cases unwrapped; exact distinct
  | .datetime _, distinct, unwrapped => by cases unwrapped; exact distinct
  | .array _ items, distinct, unwrapped => by
    obtain ⟨items, each, rfl⟩ := Option.map_eq_some_iff.mp unwrapped
    exact .array (distinct_of_unwrapItems? distinct.toItems each)
  | .table _ fields, distinct, unwrapped => by
    rw [Value.unwrap?] at unwrapped
    split at unwrapped
    · obtain ⟨moment, -, rfl⟩ := Option.map_eq_some_iff.mp unwrapped
      exact .datetime moment
    · obtain ⟨inner, each, rfl⟩ := Option.map_eq_some_iff.mp unwrapped
      apply Value.Distinct.table
      · rw [map_fst_of_unwrapFields? each]
        exact distinct.toFields.keys
      · exact distinct_of_unwrapFields? distinct.toFields.each each

theorem distinct_of_unwrapItems? {result : List Value} : {items : List Value} →
    (∀ item ∈ items, item.Distinct) → unwrapItems? items = some result →
    ∀ item ∈ result, item.Distinct
  | [], _, unwrapped => by
    cases unwrapped
    simp
  | first :: rest, distinct, unwrapped => by
    obtain ⟨sound, others⟩ := List.forall_mem_cons.mp distinct
    obtain ⟨one, opened, unwrapped⟩ := Option.bind_eq_some_iff.mp unwrapped
    obtain ⟨more, following, same⟩ := Option.bind_eq_some_iff.mp unwrapped
    cases same
    exact List.forall_mem_cons.mpr ⟨sound.unwrap? opened, distinct_of_unwrapItems? others following⟩

theorem distinct_of_unwrapFields? {result : Fields} : {fields : List (Text × Value)} →
    (∀ field ∈ fields, field.2.Distinct) → unwrapFields? fields = some result →
    ∀ field ∈ result, field.2.Distinct
  | [], _, unwrapped => by
    cases unwrapped
    simp
  | (key, first) :: rest, distinct, unwrapped => by
    obtain ⟨sound, others⟩ := List.forall_mem_cons.mp distinct
    obtain ⟨one, opened, unwrapped⟩ := Option.bind_eq_some_iff.mp unwrapped
    obtain ⟨more, following, same⟩ := Option.bind_eq_some_iff.mp unwrapped
    cases same
    exact List.forall_mem_cons.mpr ⟨sound.unwrap? opened, distinct_of_unwrapFields? others following⟩

end

/-- No table of a document has a key twice. -/
theorem distinct_of_read? {text : Text} {fields : Fields} (read : read? text = some fields) :
    fields.Distinct := by
  obtain ⟨statements, scanned, read⟩ := Option.bind_eq_some_iff.mp read
  obtain ⟨⟨root, current⟩, added, read⟩ := Option.bind_eq_some_iff.mp read
  have distinct : Fields.Distinct root := Fields.Distinct.nil.foldlM_add?
    (distinct_of_scanStatements? scanned) added
  dsimp only at read
  split at read
  · cases read
  · refine ⟨?_, distinct_of_unwrapFields? distinct.each read⟩
    rw [map_fst_of_unwrapFields? read]
    exact distinct.keys

end Numbering.Toml
