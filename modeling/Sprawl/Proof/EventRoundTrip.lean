/-
This file proves which events reach the handler of the web client.
-/

import Sprawl.Investigation.Severity
import Sprawl.Streaming.Events

namespace Sprawl

open Text

section Texts

/-- A character of printable ASCII. -/
abbrev isPrintable (char : Char) : Prop := 32 ≤ char.toNat ∧ char.toNat < 127

theorem printable_of_all {text : List Char} (all : text.all (decide <| isPrintable ·) = true) :
    ∀ part ∈ text, isPrintable part :=
  fun part inside => of_decide_eq_true (List.all_eq_true.mp all part inside)

theorem unicodeEscape_printable (code : Nat) :
    ∀ char ∈ (unicodeEscape code).toList, isPrintable char := by
  have each : ∀ digit : Fin 16, isPrintable (digit : Nat).digitChar := by decide
  rw [toList_unicodeEscape, List.forall_mem_cons, List.forall_mem_cons]
  refine ⟨by decide, by decide, fun char inside => ?_⟩
  obtain ⟨digit, rfl⟩ := mem_leftpad_hex inside
  exact each digit

theorem escapeChar_printable (char : Char) :
    ∀ part ∈ (escapeChar char).toList, isPrintable part := by
  refine escapeChar_cases (fun _ text => ∀ part ∈ text.toList, isPrintable part) char ?_ ?_ ?_ ?_
  · intro escape inside
    have letters : ∀ escape ∈ namedEscapes, isPrintable escape.2 := by decide
    rw [String.toList_ofList, List.forall_mem_cons, List.forall_mem_singleton]
    exact ⟨by decide, letters escape inside⟩
  · intro _ printable
    rw [String.toList_ofList, List.forall_mem_singleton]
    exact ⟨printable.1, Nat.lt_succ_of_le printable.2⟩
  · exact fun _ => unicodeEscape_printable _
  · intro _
    rw [String.toList_append]
    exact List.forall_mem_append.mpr ⟨unicodeEscape_printable _, unicodeEscape_printable _⟩

/-- `json.dumps` prints ASCII without line breaks. -/
theorem dumpsStyle_prints : JsonStyle.Prints dumpsStyle isPrintable where
  codes := escapeChar_printable
  numbers := by
    intro char number
    simp only [isNumeralChar, Bool.or_eq_true, decide_eq_true_eq, Char.isDigit_iff_toNat] at number
    obtain ((((digit | rfl) | rfl) | rfl) | rfl) | rfl := number
    · have low : 48 ≤ char.toNat := digit.1
      have high : char.toNat ≤ 57 := digit.2
      exact ⟨by omega, by omega⟩
    all_goals decide
  signs := printable_of_all rfl

variable (float : Numeral → PyFloat)

theorem fieldTrees_keys (fields : List (String × Json)) :
    (fieldTrees fields).map (·.1) = fields.map (·.1) := by
  induction fields with
  | nil => rfl
  | cons field rest ih => rw [fieldTrees, List.map_cons, List.map_cons, ih]

theorem pythonFields_keys (fields : List (String × JsonTree Numeral)) :
    (pythonFields float fields).map (·.1) = fields.map (·.1) := by
  induction fields with
  | nil => rfl
  | cons field rest ih => rw [pythonFields, List.map_cons, List.map_cons, ih]

theorem loads_dumps (value : Json) :
    loads float (dumps value) = some (pythonValue float value.tree) := by
  have back : ∀ text : String, String.ofList (pointsOf id text) = text := fun text => by
    rw [pointsOf, List.map_id, String.ofList_toList]
  rw [loads, dumps, String.toList_ofList, dumpsStyle.readTree_print dumpsStyle_readCharacter,
    Option.map_some, mapText_inverse back]

end Texts

section Relay

variable (float : Numeral → PyFloat) (str : Json → String)

/-- The payload as the server has read it. -/
def PublishedEvent.relayed (event : PublishedEvent) : List (String × Json) :=
  pythonFields float (fieldTrees event.payload.fields)

theorem PublishedEvent.relayed_keys (event : PublishedEvent) :
    (event.relayed float).map (·.1) = event.payload.fields.map (·.1) :=
  (pythonFields_keys float _).trans (fieldTrees_keys _)

/-- The type is the first key of a message. -/
theorem PublishedEvent.keys_nodup (event : PublishedEvent) :
    ("type" :: event.payload.fields.map (·.1)).Nodup :=
  List.nodup_cons.mpr ⟨event.untyped, event.payload.distinct.1⟩

/-- The server splits a message into its type and its payload. -/
theorem relay_publishEvent (event : PublishedEvent) :
    relay float str (publishEvent event.type event.payload) =
      some (event.type, dumps (.obj (event.relayed float))) := by
  have keys := event.keys_nodup
  have fields : objectOf (("type", Json.str event.type) :: event.payload.fields) =
      ("type", .str event.type) :: event.payload.fields := objectOf_eq keys
  have loaded : loads float (publishEvent event.type event.payload) =
      some (.obj (("type", .str event.type) :: event.relayed float)) := by
    rw [publishEvent, loads_dumps, fields, Json.tree, pythonValue, fieldTrees, pythonFields]
    have read : objectOf (("type", pythonValue float (Json.str event.type).tree) ::
        event.relayed float) = ("type", pythonValue float (Json.str event.type).tree) ::
          event.relayed float := by
      apply objectOf_eq
      rw [List.map_cons, event.relayed_keys]
      exact keys
    exact congrArg (some ∘ Json.obj) read
  have others : (event.relayed float).filter (fun field => field.1 ≠ "type") =
      event.relayed float := by
    rw [List.filter_eq_self]
    intro field inside
    rw [decide_eq_true_eq]
    rintro same
    apply event.untyped
    rw [← event.relayed_keys float, ← same]
    exact List.mem_map_of_mem inside
  rw [relay, loaded]
  dsimp only
  rw [List.lookup_cons, List.filter_cons_of_neg (by simp), others]
  rfl

end Relay

section Floats

variable {float : Numeral → PyFloat}

theorem readInt_toString (value : Int) : readInt (toString value).toList = value := by
  obtain ⟨text, natural⟩ | ⟨text, negative⟩ := toList_int value <;> rw [text]
  · have unsigned : ∀ digits, Nat.toDigits 10 value.natAbs ≠ '-' :: digits := by
      intro digits same
      have minus : '-' ∈ Nat.toDigits 10 value.natAbs := same ▸ List.mem_cons_self
      exact absurd (toDigits_digit minus) (by decide)
    unfold readInt
    split
    · next digits same => exact absurd same (unsigned digits)
    · rw [Nat.ofDigitChars_ten_toDigits]
      omega
  · rw [readInt, Nat.ofDigitChars_ten_toDigits]
    omega

/-- The text of a float has a point or an exponent. -/
theorem floatNumeral_marked (value : PyFloat) :
    ∃ mark ∈ (floatNumeral value).text, mark.isDigit = false ∧ mark ≠ '-' := by
  have marked : ∃ mark ∈ value.digits, mark.isDigit = false ∧ mark ≠ '-' := by
    unfold PyFloat.digits
    dsimp only
    split
    · exact ⟨'e', by simp [scientific], by decide, by decide⟩
    split
    · exact ⟨'.', by simp, by decide, by decide⟩
    split
    · exact ⟨'.', by simp, by decide, by decide⟩
    · exact ⟨'.', by simp, by decide, by decide⟩
  obtain ⟨mark, inside, other⟩ := marked
  refine ⟨mark, ?_, other⟩
  change mark ∈ value.repr.toList
  rw [value.toList_repr]
  exact List.mem_append_right _ inside

theorem pythonNumber_int (float : Numeral → PyFloat) (value : Int) :
    pythonNumber float (intNumeral value) = .int value := by
  have signs : ((intNumeral value).text.all fun char => char.isDigit || char = '-') = true := by
    rw [List.all_eq_true]
    intro char inside
    rw [Bool.or_eq_true, decide_eq_true_eq]
    exact mem_toList_int inside
  rw [pythonNumber, if_pos signs]
  exact congrArg Json.int (readInt_toString value)

theorem pythonNumber_float (float : Numeral → PyFloat) (value : PyFloat) :
    pythonNumber float (floatNumeral value) = .float (float (floatNumeral value)) := by
  obtain ⟨mark, inside, digit, minus⟩ := floatNumeral_marked value
  apply if_neg
  rw [List.all_eq_true]
  intro every
  have signs := every mark inside
  rw [digit, Bool.false_or, decide_eq_true_eq] at signs
  exact minus signs

mutual

/-- A value is read as it was written. -/
theorem pythonValue_tree (reads : ∀ value, float (floatNumeral value) = value) :
    (value : Json) → value.KeysDistinct → pythonValue float value.tree = value
  | .null, _ => rfl
  | .bool _, _ => rfl
  | .int value, _ => pythonNumber_int float value
  | .float value, _ => by
      rw [Json.tree, pythonValue, pythonNumber_float, reads]
  | .str _, _ => rfl
  | .arr items, distinct => congrArg Json.arr (pythonItems_trees reads items distinct)
  | .obj fields, distinct => by
      have same := pythonFields_trees reads fields distinct.2
      rw [Json.tree, pythonValue, same, objectOf_eq distinct.1]

theorem pythonItems_trees (reads : ∀ value, float (floatNumeral value) = value) :
    (items : List Json) → KeysDistinctItems items → pythonItems float (itemTrees items) = items
  | [], _ => rfl
  | item :: rest, distinct => by
      rw [itemTrees, pythonItems, pythonValue_tree reads item distinct.1,
        pythonItems_trees reads rest distinct.2]

theorem pythonFields_trees (reads : ∀ value, float (floatNumeral value) = value) :
    (fields : List (String × Json)) → KeysDistinctFields fields →
      pythonFields float (fieldTrees fields) = fields
  | [], _ => rfl
  | (key, value) :: rest, distinct => by
      rw [fieldTrees, pythonFields, pythonValue_tree reads value distinct.1,
        pythonFields_trees reads rest distinct.2]

end

/-- The server passes the payload on as it was published. -/
theorem PublishedEvent.relayed_eq (reads : ∀ value, float (floatNumeral value) = value)
    (event : PublishedEvent) :
    event.relayed float = event.payload.fields :=
  pythonFields_trees reads event.payload.fields event.payload.distinct.2

end Floats

section Lines

variable {ν : Type} (number : Numeral → ν)

/-- A text without blanks at its ends, behind a blank. -/
theorem stripChars_blank {stripped : Char → Bool} {blank first last : Char} {inner : List Char}
    (isBlank : stripped blank = true) (solid : stripped first = false)
    (end_ : stripped last = false) :
    stripChars stripped (blank :: first :: (inner ++ [last])) = first :: (inner ++ [last]) := by
  have shown : (first :: (inner ++ [last])).reverse = last :: (first :: inner).reverse := by simp
  rw [stripChars, List.dropWhile_cons_of_pos isBlank,
    List.dropWhile_cons_of_neg (Bool.eq_false_iff.mp solid), shown,
    List.dropWhile_cons_of_neg (Bool.eq_false_iff.mp end_), ← shown, List.reverse_reverse]

/-- The client parses the data of a frame. -/
theorem onLine_data (fields : List (String × Json)) :
    onLine number ("data: ".toList ++ dumpsStyle.print (Json.obj fields).tree) =
      some (jsValue number (.obj fields)) := by
  have text : dumpsStyle.print (Json.obj fields).tree =
      '\x7b' :: (dumpsStyle.printFields (fieldTrees fields) ++ ['\x7d']) := rfl
  have raw : stripChars isJsBlank (' ' :: dumpsStyle.print (Json.obj fields).tree) =
      dumpsStyle.print (Json.obj fields).tree := by
    rw [text]
    exact stripChars_blank rfl rfl rfl
  have spoken : ¬ ((dumpsStyle.print (Json.obj fields).tree).isEmpty ||
      decide (dumpsStyle.print (Json.obj fields).tree = ":keepalive".toList)) = true := by
    rw [text, List.isEmpty_cons, Bool.false_or, decide_eq_true_eq]
    exact fun same => absurd (List.cons.inj same).1 (by decide)
  have starts : "data:".toList.isPrefixOf
      ("data: ".toList ++ dumpsStyle.print (Json.obj fields).tree) = true := rfl
  have dropped : ("data: ".toList ++ dumpsStyle.print (Json.obj fields).tree).drop 5 =
      ' ' :: dumpsStyle.print (Json.obj fields).tree := rfl
  rw [onLine, if_pos starts, dropped, raw, if_neg spoken, jsonParse,
    dumpsStyle.readTree_print dumpsStyle_readPoint]
  rfl

/-- The lines of a text make the given calls. -/
def Calls (text : List Char) (calls : List (JsonTree ν JsText)) : Prop :=
  ∃ lines : List (List Char), text = lines.flatMap (· ++ ['\n']) ∧
    (∀ line ∈ lines, '\n' ∉ line) ∧ lines.filterMap (onLine number) = calls

variable {number} {first second : List Char} {calls others : List (JsonTree ν JsText)}

theorem Calls.nil : Calls number [] [] := ⟨[], rfl, by simp, rfl⟩

theorem Calls.append (starts : Calls number first calls) (ends : Calls number second others) :
    Calls number (first ++ second) (calls ++ others) := by
  obtain ⟨lines, rfl, free, rfl⟩ := starts
  obtain ⟨more, rfl, moreFree, rfl⟩ := ends
  exact ⟨lines ++ more, List.flatMap_append.symm, List.forall_mem_append.mpr ⟨free, moreFree⟩,
    List.filterMap_append⟩

/-- A client that gets the text in chunks makes the calls of its lines. -/
theorem Calls.received {text : List Char} (made : Calls number text calls)
    {chunks : List (List Char)} (fed : chunks.flatten = text) :
    useWorkspaceSse number chunks = calls := by
  obtain ⟨lines, rfl, free, rfl⟩ := made
  rw [useWorkspaceSse, LineReader.receive_chunks, fed, LineReader.handled_lines _ free]

theorem calls_keepalive : Calls number keepalive.toList [] :=
  ⟨[": keepalive".toList, []], rfl, by decide, rfl⟩

/-- A frame calls the client once. -/
theorem calls_frame (counter : Nat) {eventType : String} (oneLine : '\n' ∉ eventType.toList)
    (fields : List (String × Json)) :
    Calls number (sseFrame counter eventType (dumps (.obj fields))).toList
      [jsValue number (.obj fields)] := by
  refine ⟨["id: ".toList ++ (toString counter).toList, "event: ".toList ++ eventType.toList,
    "data: ".toList ++ dumpsStyle.print (Json.obj fields).tree, []], ?_, ?_, ?_⟩
  · simp [sseFrame, dumps]
  · have break_ : ¬ isPrintable '\n' := by decide
    have counted : '\n' ∉ Nat.toDigits 10 counter :=
      fun inside => absurd (toDigits_digit inside) (by decide)
    have data : '\n' ∉ dumpsStyle.print (Json.obj fields).tree :=
      fun inside => break_ (JsonStyle.print_chars dumpsStyle_prints _ _ inside)
    simp [counted, oneLine, data]
  · rw [List.filterMap_cons_none rfl, List.filterMap_cons_none rfl,
      List.filterMap_cons_some (onLine_data number fields)]
    rfl

end Lines

section RoundTrips

variable {ν : Type} (float : Numeral → PyFloat) (str : Json → String) (number : Numeral → ν)

/-- What the client gets for an event. -/
def PublishedEvent.call (event : PublishedEvent) : JsonTree ν JsText :=
  jsValue number (.obj (event.relayed float))

/-- The message of an event. -/
def PublishedEvent.message (event : PublishedEvent) : String :=
  publishEvent event.type event.payload

variable {events : List PublishedEvent} {polls : List Poll}

/-- The frames of the messages call the client once for each event. -/
theorem calls_stream (delivered : polls.filterMap Poll.raw? = events.map PublishedEvent.message)
    (counter : Nat) :
    Calls number ((workspaceEventStream float str counter polls).flatMap String.toList)
      (events.map (PublishedEvent.call float number)) := by
  induction polls generalizing counter events with
  | nil =>
      obtain rfl : events = [] := List.map_eq_nil_iff.mp delivered.symm
      exact .nil
  | cons poll rest ih =>
      cases poll with
      | nothing =>
          rw [workspaceEventStream, List.flatMap_cons]
          exact calls_keepalive.append (ih delivered counter)
      | other => exact ih delivered counter
      | message raw =>
          obtain ⟨event, others, rfl, rfl, more⟩ := List.map_eq_cons_iff.mp delivered.symm
          have relayed : relay float str event.message = _ := relay_publishEvent float str event
          rw [workspaceEventStream, relayed, List.flatMap_cons, List.map_cons]
          exact (calls_frame _ event.oneLine.1 _).append (ih more.symm (counter + 1))

/-- The client is called once for each event, in order, with the payload that the server has read. -/
theorem client_called (delivered : polls.filterMap Poll.raw? = events.map PublishedEvent.message)
    {chunks : List (List Char)}
    (fed : chunks.flatten = (workspaceEventStream float str 0 polls).flatMap String.toList) :
    useWorkspaceSse number chunks = events.map (PublishedEvent.call float number) :=
  (calls_stream float str number delivered 0).received fed

/-- The client gets every payload as it was published, without its type. -/
theorem client_gets_payloads (reads : ∀ value, float (floatNumeral value) = value)
    (delivered : polls.filterMap Poll.raw? = events.map PublishedEvent.message)
    {chunks : List (List Char)}
    (fed : chunks.flatten = (workspaceEventStream float str 0 polls).flatMap String.toList) :
    useWorkspaceSse number chunks =
      events.map fun event => jsValue number (.obj event.payload.fields) := by
  rw [client_called float str number delivered fed]
  exact List.map_congr_left fun event _ => by rw [PublishedEvent.call, event.relayed_eq reads]

theorem jsText_injective : Function.Injective jsText := by
  intro first second same
  have apart : Function.Injective CodePoint.scalar := fun _ _ => CodePoint.scalar.inj
  exact String.toList_inj.mp (List.map_injective_iff.mpr apart same)

/-- No call has a type. -/
theorem call_untyped (event : PublishedEvent) :
    (event.call float number).field? (jsText "type") = none := by
  apply field?_value_eq_none
  rw [mapFields_keys, List.mem_map_of_injective jsText_injective, fieldTrees_keys,
    event.relayed_keys]
  exact event.untyped

theorem extended_typed (event : PublishedEvent) :
    (jsValue number event.extended).field? (jsText "type") =
      some (.string (jsText event.type)) := by
  apply field?_value_head
  rw [mapFields_keys, fieldTrees_keys]
  exact event.keys_nodup.map jsText_injective

/-- The events make the round trip exactly if there are none: the type of an event is on a line that
the client does not read. -/
theorem roundTrips_iff (delivered : polls.filterMap Poll.raw? = events.map PublishedEvent.message)
    {chunks : List (List Char)}
    (fed : chunks.flatten = (workspaceEventStream float str 0 polls).flatMap String.toList) :
    RoundTrips number events (useWorkspaceSse number chunks) ↔ events = [] := by
  rw [client_called float str number delivered fed]
  constructor
  · intro trip
    cases events with
    | nil => rfl
    | cons event rest =>
        have first := (List.forall₂_cons.mp trip).1 (jsText "type")
        rw [call_untyped, extended_typed] at first
        cases first
  · rintro rfl
    exact .nil

/-- The event of a rotation that is done. -/
def rotationCompleted : PublishedEvent where
  type := "rotation.completed"
  payload := {
    fields := [("rotation_id", .str "r")],
    distinct := by simp [Json.KeysDistinct, KeysDistinctFields] }
  named := by decide
  oneLine := by decide
  untyped := by decide

/-- The server waits once before the event comes. -/
def rotationPolls : List Poll := [.nothing, .message rotationCompleted.message]

/-- No number is in the event. -/
def rotationFrames : List String :=
  workspaceEventStream (fun _ => .decimal 0 0) (fun _ => "") 0 rotationPolls

/-- The second chunk starts inside a line. -/
def rotationChunks : List (List Char) :=
  [": keepalive\n\nid: 1\nevent: rotation.com".toList,
    "pleted\ndata: \x7b\"rotation_id\": \"r\"\x7d\n\n".toList]

theorem rotationFrames_fed :
    rotationChunks.flatten = rotationFrames.flatMap String.toList := by decide +kernel

theorem rotationCompleted_roundTrips :
    RoundTrips id [rotationCompleted] (useWorkspaceSse id rotationChunks) ↔
      [rotationCompleted] = [] :=
  roundTrips_iff (fun _ => .decimal 0 0) (fun _ => "") id
    (show rotationPolls.filterMap Poll.raw? = _ from rfl) rotationFrames_fed

/-- The handler does not see that a rotation is done. -/
theorem rotationCompleted_arrives_untyped :
    rotationPolls.filterMap Poll.raw? = [rotationCompleted].map PublishedEvent.message ∧
    rotationChunks.flatten = rotationFrames.flatMap String.toList ∧
    ¬ RoundTrips id [rotationCompleted] (useWorkspaceSse id rotationChunks) := by
  have delivered : rotationPolls.filterMap Poll.raw? =
      [rotationCompleted].map PublishedEvent.message := rfl
  refine ⟨delivered, rotationFrames_fed, fun trip => ?_⟩
  rw [client_called _ _ id delivered rotationFrames_fed] at trip
  have same := (List.forall₂_cons.mp trip).1 (jsText "type")
  rw [call_untyped, extended_typed] at same
  cases same

end RoundTrips

end Sprawl
