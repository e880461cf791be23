import ExpiringCache.Json.Token
import ExpiringCache.Matcher

/-!
# Records in JSON

An object with known fields, or an array that gives them in order. The text is read from front
to back and the first thing amiss decides: a known field given twice, a value of another kind or
a required field left out is a mismatch, and whatever breaks the grammar is a malformed text.
Unknown fields are passed over, whatever JSON they hold.
-/

namespace ExpiringCache.Json

/-- What stands around a value. -/
inductive Bracket where
  | array | object
  deriving DecidableEq, Repr

/-- What may come next in a value that is passed over. -/
inductive Expected where
  | value | firstValue | key | firstKey | colon | separator
  deriving DecidableEq, Repr

/-- Where in a value one is: the brackets around the place, and what may come next there. -/
abbrev Position := List Bracket × Expected

/-- The place after a complete value, or none after the outermost. -/
def afterValue : List Bracket → Option Position
  | [] => none
  | around => some (around, .separator)

/-- The place after a token at the start of a value. -/
def stepValue (around : List Bracket) : Token → Except Fault (Option Position)
  | .null | .bool _ | .string _ | .number _ => .ok (afterValue around)
  | .beginArray => .ok (some (.array :: around, .firstValue))
  | .beginObject => .ok (some (.object :: around, .firstKey))
  | _ => .error .malformed

/-- The place after a token, or none if it ends the value. -/
def stepPosition (p : Position) (t : Token) : Except Fault (Option Position) :=
  match p.2 with
  | .value => stepValue p.1 t
  | .firstValue => if t = .endArray then .ok (afterValue p.1.tail) else stepValue p.1 t
  | .key =>
    match t with
    | .string _ => .ok (some (p.1, .colon))
    | _ => .error .malformed
  | .firstKey =>
    match t with
    | .string _ => .ok (some (p.1, .colon))
    | .endObject => .ok (afterValue p.1.tail)
    | _ => .error .malformed
  | .colon => if t = .colon then .ok (some (p.1, .value)) else .error .malformed
  | .separator =>
    match p.1, t with
    | .array :: _, .comma => .ok (some (p.1, .value))
    | .array :: around, .endArray => .ok (afterValue around)
    | .object :: _, .comma => .ok (some (p.1, .key))
    | .object :: around, .endObject => .ok (afterValue around)
    | _, _ => .error .malformed

/-- The text after the value in which one is at a place. -/
def skipFrom (p : Position) (text : List Symbol) : Except Fault (List Symbol) :=
  match _h : nextToken text with
  | .error fault => .error fault
  | .ok (t, rest) =>
    match stepPosition p t with
    | .error fault => .error fault
    | .ok none => .ok rest
    | .ok (some q) => skipFrom q rest
termination_by text.length
decreasing_by exact nextToken_length_lt _h

/-- The text after a value of any kind. -/
def skipValue (text : List Symbol) : Except Fault (List Symbol) := skipFrom ([], .value) text

theorem skipFrom_length_lt {p : Position} {text rest : List Symbol}
    (h : skipFrom p text = .ok rest) : rest.length < text.length := by
  fun_induction skipFrom p text with
  | case1 => simp at h
  | case2 => simp at h
  | case3 p text t rest' ht =>
    cases h
    exact nextToken_length_lt ht
  | case4 p text t rest' ht q _ ih => exact Nat.lt_trans (ih h) (nextToken_length_lt ht)

/-- What is wrong when a token starts a value of another kind than wanted. -/
def Token.misplaced : Token → Fault
  | beginArray | beginObject | null | bool _ => .mismatched
  | string content => if content.isSome then .mismatched else .malformed
  | number inRange => if inRange then .mismatched else .malformed
  | endArray | endObject | colon | comma => .malformed

/-- What a field holds. -/
inductive Kind where
  | text | mode
  deriving DecidableEq, Repr

/-- The value of a field. -/
inductive FieldValue where
  | text (s : String)
  | mode (m : SearchMode)
  deriving DecidableEq, Repr

/-- A known field of a record. -/
structure Field where
  name : String
  kind : Kind
  required : Bool
  deriving DecidableEq, Repr

/-- A string. -/
def readText (text : List Symbol) : Except Fault (String × List Symbol) :=
  match nextToken text with
  | .error fault => .error fault
  | .ok (.string (some content), rest) => .ok (String.ofList content, rest)
  | .ok (t, _) => .error t.misplaced

/-- A string that names a mode. Nothing else may stand in its place. -/
def readModeName (text : List Symbol) : Except Fault (SearchMode × List Symbol) :=
  match nextToken text with
  | .error fault => .error fault
  | .ok (.string (some content), rest) =>
    match SearchMode.ofLabel? (String.ofList content) with
    | none => .error .mismatched
    | some m => .ok (m, rest)
  | .ok _ => .error .malformed

/-- One given token. -/
def readMark (mark : Token) (text : List Symbol) : Except Fault (List Symbol) :=
  match nextToken text with
  | .error fault => .error fault
  | .ok (t, rest) => if t = mark then .ok rest else .error .malformed

/-- The null that a mode in an object stands before. -/
def readNull (text : List Symbol) : Except Fault (List Symbol) :=
  match nextToken text with
  | .error fault => .error fault
  | .ok (.null, rest) => .ok rest
  | .ok (t, _) => .error t.misplaced

/-- A mode: its name, or an object with its name before a null. -/
def readMode (text : List Symbol) : Except Fault (SearchMode × List Symbol) :=
  match nextToken text with
  | .error fault => .error fault
  | .ok (.string _, _) => readModeName text
  | .ok (.beginObject, rest) =>
    match readModeName rest with
    | .error fault => .error fault
    | .ok (m, rest) =>
      match (readMark .colon rest).bind fun rest => (readNull rest).bind (readMark .endObject) with
      | .error fault => .error fault
      | .ok rest => .ok (m, rest)
  | .ok _ => .error .malformed

/-- The value of a field of some kind. -/
def readField (kind : Kind) (text : List Symbol) : Except Fault (FieldValue × List Symbol) :=
  match kind with
  | .text => (readText text).map fun (s, rest) => (.text s, rest)
  | .mode => (readMode text).map fun (m, rest) => (.mode m, rest)

/-- The fields found so far, by name. -/
abbrev Found := List (String × FieldValue)

/-- The value of a field that has been found. -/
def Found.get? (found : Found) (name : String) : Option FieldValue :=
  (found.find? (·.1 = name)).map (·.2)

/-- The text of a field that has been found. -/
def Found.text? (found : Found) (name : String) : Option String :=
  match found.get? name with
  | some (.text s) => some s
  | _ => none

/-- Whether nothing that is required has been left out. -/
def isComplete (fields : List Field) (found : Found) : Bool :=
  fields.all fun f => ! f.required || (found.get? f.name).isSome

/-- The value after the key of a member, added to the fields found. A known field may come
once. -/
def readMember (fields : List Field) (found : Found) (key : String) (text : List Symbol) :
    Except Fault (Found × List Symbol) :=
  match fields.find? (·.name = key) with
  | none => ((readMark .colon text).bind skipValue).map fun rest => (found, rest)
  | some f =>
    if (found.get? key).isSome then .error .mismatched
    else
      match (readMark .colon text).bind (readField f.kind) with
      | .error fault => .error fault
      | .ok (value, rest) => .ok ((key, value) :: found, rest)

theorem readText_length_lt {text rest : List Symbol} {s : String}
    (h : readText text = .ok (s, rest)) : rest.length < text.length := by
  unfold readText at h
  split at h
  · simp at h
  · rename_i ht
    cases h
    exact nextToken_length_lt ht
  · simp at h

theorem readMark_length_lt {mark : Token} {text rest : List Symbol}
    (h : readMark mark text = .ok rest) : rest.length < text.length := by
  unfold readMark at h
  split at h
  · simp at h
  · rename_i ht
    split at h
    · cases h
      exact nextToken_length_lt ht
    · simp at h

theorem readNull_length_lt {text rest : List Symbol} (h : readNull text = .ok rest) :
    rest.length < text.length := by
  unfold readNull at h
  split at h
  · simp at h
  · rename_i ht
    cases h
    exact nextToken_length_lt ht
  · simp at h

theorem readModeName_length_lt {text rest : List Symbol} {m : SearchMode}
    (h : readModeName text = .ok (m, rest)) : rest.length < text.length := by
  unfold readModeName at h
  split at h
  · simp at h
  · rename_i ht
    split at h
    · simp at h
    · cases h
      exact nextToken_length_lt ht
  · simp at h

theorem bind_eq_ok {α β : Type} {x : Except Fault α} {f : α → Except Fault β} {b : β}
    (h : x.bind f = .ok b) : ∃ a, x = .ok a ∧ f a = .ok b := by
  cases x with
  | error => simp [Except.bind] at h
  | ok a => exact ⟨a, rfl, h⟩

theorem readMode_length_lt {text rest : List Symbol} {m : SearchMode}
    (h : readMode text = .ok (m, rest)) : rest.length < text.length := by
  unfold readMode at h
  split at h
  · simp at h
  · exact readModeName_length_lt h
  · rename_i ht
    have h₁ := nextToken_length_lt ht
    split at h
    · simp at h
    · rename_i hm
      have h₂ := readModeName_length_lt hm
      split at h
      · simp at h
      · rename_i hb
        cases h
        obtain ⟨_, hc, hb⟩ := bind_eq_ok hb
        obtain ⟨_, hn, he⟩ := bind_eq_ok hb
        have h₃ := readMark_length_lt hc
        have h₄ := readNull_length_lt hn
        have h₅ := readMark_length_lt he
        omega
  · simp at h

theorem readField_length_lt {kind : Kind} {text rest : List Symbol} {v : FieldValue}
    (h : readField kind text = .ok (v, rest)) : rest.length < text.length := by
  unfold readField at h
  split at h
  · obtain ⟨_, hr⟩ := map_eq_ok_rest h fun _ => rfl
    exact readText_length_lt hr
  · obtain ⟨_, hr⟩ := map_eq_ok_rest h fun _ => rfl
    exact readMode_length_lt hr

theorem readMember_length_lt {fields : List Field} {found found' : Found} {key : String}
    {text rest : List Symbol} (h : readMember fields found key text = .ok (found', rest)) :
    rest.length < text.length := by
  unfold readMember at h
  split at h
  · cases hb : (readMark .colon text).bind skipValue with
    | error => simp [hb, Except.map] at h
    | ok r =>
      obtain ⟨_, hc, hs⟩ := bind_eq_ok hb
      rw [hb] at h
      cases h
      exact Nat.lt_trans (skipFrom_length_lt hs) (readMark_length_lt hc)
  · split at h
    · simp at h
    · split at h
      · simp at h
      · rename_i hb
        obtain ⟨_, hc, hf⟩ := bind_eq_ok hb
        cases h
        exact Nat.lt_trans (readField_length_lt hf) (readMark_length_lt hc)

/-- The key of a member, whose first token has been read. -/
def keyOfToken (t : Token) : Except Fault String :=
  match t with
  | .string (some content) => .ok (String.ofList content)
  | _ => .error .malformed

/-- The key of a further member, after its comma. -/
def readKey (text : List Symbol) : Except Fault (String × List Symbol) :=
  match nextToken text with
  | .error fault => .error fault
  | .ok (t, rest) => (keyOfToken t).map (·, rest)

/-- The members of an object after one of them, up to its end. -/
def readMembers (fields : List Field) (found : Found) (text : List Symbol) :
    Except Fault (Found × List Symbol) :=
  match _h : nextToken text with
  | .error fault => .error fault
  | .ok (.endObject, rest) =>
    if isComplete fields found then .ok (found, rest) else .error .mismatched
  | .ok (.comma, rest) =>
    match _hk : readKey rest with
    | .error fault => .error fault
    | .ok (key, rest') =>
      match _hm : readMember fields found key rest' with
      | .error fault => .error fault
      | .ok (found', rest'') => readMembers fields found' rest''
  | .ok _ => .error .malformed
termination_by text.length
decreasing_by
  have h₁ := nextToken_length_lt _h
  have h₃ := readMember_length_lt _hm
  have h₂ : rest'.length < rest.length := by
    unfold readKey at _hk
    split at _hk
    · simp at _hk
    · rename_i t u ht
      have := nextToken_length_lt ht
      cases hq : keyOfToken t with
      | error => simp [hq, Except.map] at _hk
      | ok =>
        rw [hq] at _hk
        cases _hk
        exact this
  omega

/-- What the members after one are, by the next token. -/
theorem readMembers_eq (fields : List Field) (found : Found) (text : List Symbol) :
    readMembers fields found text =
      match nextToken text with
      | .error fault => .error fault
      | .ok (.endObject, rest) =>
        if isComplete fields found then .ok (found, rest) else .error .mismatched
      | .ok (.comma, rest) =>
        match readKey rest with
        | .error fault => .error fault
        | .ok (key, rest') =>
          match readMember fields found key rest' with
          | .error fault => .error fault
          | .ok (found', rest'') => readMembers fields found' rest''
      | .ok _ => .error .malformed := by
  conv => lhs; unfold readMembers
  split
  · simp only [*]
  · simp only [*]
  · simp only [*]
    split
    · simp only [*]
    · simp only [*]
      split <;> simp only [*]
  · simp only [*]

/-- An object after its opening brace. -/
def readObject (fields : List Field) (text : List Symbol) : Except Fault (Found × List Symbol) :=
  match nextToken text with
  | .error fault => .error fault
  | .ok (.endObject, rest) =>
    if isComplete fields [] then .ok ([], rest) else .error .mismatched
  | .ok (t, rest) =>
    match keyOfToken t with
    | .error fault => .error fault
    | .ok key =>
      match readMember fields [] key rest with
      | .error fault => .error fault
      | .ok (found, rest) => readMembers fields found rest

/-- The end of an array that has given no more fields. -/
def finishArray (fields : List Field) (found : Found) (rest : List Symbol) :
    Except Fault (Found × List Symbol) :=
  if fields.any (·.required) then .error .mismatched else .ok (found, rest)

/-- The fields of an array in order, after some of them. -/
def readElements (fields : List Field) (found : Found) (text : List Symbol) :
    Except Fault (Found × List Symbol) :=
  match nextToken text with
  | .error fault => .error fault
  | .ok (.endArray, rest) => finishArray fields found rest
  | .ok (.comma, rest) =>
    match fields with
    | [] => .error .malformed
    | f :: fields =>
      match nextToken rest with
      | .ok (.endArray, _) => .error .malformed
      | _ =>
        match readField f.kind rest with
        | .error fault => .error fault
        | .ok (value, rest) => readElements fields ((f.name, value) :: found) rest
  | .ok _ => .error .malformed

/-- An array after its opening bracket. -/
def readArray (fields : List Field) (text : List Symbol) : Except Fault (Found × List Symbol) :=
  match nextToken text with
  | .ok (.endArray, rest) => finishArray fields [] rest
  | _ =>
    match fields with
    | [] => .error .malformed
    | f :: fields =>
      match readField f.kind text with
      | .error fault => .error fault
      | .ok (value, rest) => readElements fields [(f.name, value)] rest

/-- A record, and the text after it. -/
def readRecord (fields : List Field) (text : List Symbol) :
    Except Fault (Found × List Symbol) :=
  match nextToken text with
  | .error fault => .error fault
  | .ok (.beginObject, rest) => readObject fields rest
  | .ok (.beginArray, rest) => readArray fields rest
  | .ok (t, _) => .error t.misplaced

end ExpiringCache.Json
