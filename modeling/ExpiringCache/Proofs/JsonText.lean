import ExpiringCache.Request
import ExpiringCache.Response
import Mathlib.Tactic.SplitIfs

/-!
# Objects as text

Which texts are an object with given members, each a string or a truth value: blanks may stand
between the tokens, and a character of a string may stand for itself or be escaped in any way
there is. Whatever of this is written, a reader of known fields that are strings finds them
(`readMembers_of_tail`), and what is written here is of this kind (`isObject_writeObject`).
-/

namespace ExpiringCache

/-- Whether a character is the hexadecimal digit for a number, in lower or upper case. -/
def HexDigit (c : Char) (n : Nat) : Prop :=
  "0123456789abcdef".toList[n]? = some c ∨ "0123456789ABCDEF".toList[n]? = some c

theorem HexDigit.lt {c : Char} {n : Nat} (h : HexDigit c n) : n < 16 := by
  rcases h with h | h
  all_goals exact (List.getElem?_eq_some_iff.1 h).1

/-- What holds of all digits holds of a hexadecimal digit. -/
theorem HexDigit.of_forall {P : Char → Nat → Prop} {c : Char} {n : Nat} (h : HexDigit c n)
    (lower : ∀ i : Fin 16, P ("0123456789abcdef".toList.getD i ' ') i)
    (upper : ∀ i : Fin 16, P ("0123456789ABCDEF".toList.getD i ' ') i) : P c n := by
  have hlt := h.lt
  rcases h with h | h
  · have hdigit := lower ⟨n, hlt⟩
    rwa [List.getD_eq_getElem?_getD, h] at hdigit
  · have hdigit := upper ⟨n, hlt⟩
    rwa [List.getD_eq_getElem?_getD, h] at hdigit

namespace Json

/-- A value that can be told apart from others by its text alone. -/
inductive Value where
  | text (s : String)
  | bool (b : Bool)
  deriving DecidableEq, Repr

/-- A text starts with four hexadecimal digits of a number. -/
inductive HexUnit : List Char → Nat → List Char → Prop
  | intro {a b c d : Char} {i j k l : Nat} {rest : List Char} (ha : HexDigit a i)
      (hb : HexDigit b j) (hc : HexDigit c k) (hd : HexDigit d l) :
      HexUnit (a :: b :: c :: d :: rest) (((i * 16 + j) * 16 + k) * 16 + l) rest

/-- The marks that stand for a character after a backslash. -/
def shortEscapes : List (Char × Char) :=
  [('"', '"'), ('\\', '\\'), ('/', '/'), ('b', '\x08'), ('f', '\x0c'), ('n', '\n'), ('r', '\r'),
    ('t', '\t')]

/-- A text starts with a character of a string. -/
inductive StringChar : List Char → Char → List Char → Prop
  | plain {c : Char} {rest : List Char} (hquote : c ≠ '"') (hescape : c ≠ '\\')
      (hcontrol : 0x20 ≤ c.toNat) : StringChar (c :: rest) c rest
  | short {mark c : Char} {rest : List Char} (h : (mark, c) ∈ shortEscapes) :
      StringChar ('\\' :: mark :: rest) c rest
  | unit {c : Char} {text rest : List Char} (h : HexUnit text c.toNat rest) :
      StringChar ('\\' :: 'u' :: text) c rest
  | pair {c : Char} {m n : Nat} {text between rest : List Char}
      (hm : HexUnit text m ('\\' :: 'u' :: between)) (hn : HexUnit between n rest)
      (hlead : 0xd800 ≤ m ∧ m < 0xdc00) (htrail : 0xdc00 ≤ n ∧ n < 0xe000)
      (hc : c.toNat = 0x10000 + (m - 0xd800) * 0x400 + (n - 0xdc00)) :
      StringChar ('\\' :: 'u' :: text) c rest

/-- A text starts with what follows the opening quote of a string. -/
inductive StringTail : List Char → List Char → List Char → Prop
  | close {rest : List Char} : StringTail ('"' :: rest) [] rest
  | char {c : Char} {cs text between rest : List Char} (hc : StringChar text c between)
      (hcs : StringTail between cs rest) : StringTail text (c :: cs) rest

/-- A text starts with a value. -/
inductive IsValue : List Char → Value → List Char → Prop
  | text {s : String} {text rest : List Char} (h : StringTail text s.toList rest) :
      IsValue ('"' :: text) (.text s) rest
  | bool (b : Bool) (rest : List Char) :
      IsValue ((if b then "true" else "false").toList ++ rest) (.bool b) rest

/-- A text is another one with blanks before it. -/
def Blanks (text rest : List Char) : Prop :=
  ∃ blanks : List Char, (∀ c ∈ blanks, c ∈ [' ', '\t', '\n', '\r']) ∧ text = blanks ++ rest

/-- A text starts with a member of an object. -/
inductive IsMember : List Char → String × Value → List Char → Prop
  | intro {key : String} {v : Value} {start name colon afterColon value rest : List Char}
      (hquote : Blanks start ('"' :: name)) (hname : StringTail name key.toList colon)
      (hcolon : Blanks colon (':' :: afterColon)) (hblanks : Blanks afterColon value)
      (hvalue : IsValue value v rest) : IsMember start (key, v) rest

/-- A text starts with what follows a member of an object. -/
inductive MembersTail : List Char → List (String × Value) → List Char → Prop
  | close {text rest : List Char} (h : Blanks text ('\x7d' :: rest)) : MembersTail text [] rest
  | member {m : String × Value} {ms : List (String × Value)}
      {text afterComma between rest : List Char} (hcomma : Blanks text (',' :: afterComma))
      (hm : IsMember afterComma m between) (hms : MembersTail between ms rest) :
      MembersTail text (m :: ms) rest

/-- A text is an object with some members in order. -/
inductive IsObject : List Char → List (String × Value) → Prop
  | intro {m : String × Value} {ms : List (String × Value)}
      {text body afterFirst rest : List Char} (hopen : Blanks text ('\x7b' :: body))
      (hm : IsMember body m afterFirst) (hms : MembersTail afterFirst ms rest)
      (hend : Blanks rest []) : IsObject text (m :: ms)

/-- A text is an object with some members in any order. -/
def Encodes (text : List Char) (members : List (String × Value)) : Prop :=
  ∃ ordered, ordered.Perm members ∧ IsObject text ordered

section Reading

theorem hexDigit?_of_hexDigit {c : Char} {n : Nat} (h : HexDigit c n) :
    hexDigit? (some c) = some n :=
  h.of_forall (P := fun c n => hexDigit? (some c) = some n) (by decide) (by decide)

theorem readPieces_unit {text rest : List Char} {n : Nat} (h : HexUnit text n rest) :
    readPieces (('\\' :: 'u' :: text).map some) =
      (readPieces (rest.map some)).map fun (pieces, rest) => (.unit n :: pieces, rest) := by
  cases h with
  | intro ha hb hc hd =>
    simp only [List.map_cons]
    rw [readPieces]
    simp only [unitOfHex?, hexDigit?_of_hexDigit ha, hexDigit?_of_hexDigit hb,
      hexDigit?_of_hexDigit hc, hexDigit?_of_hexDigit hd]
    rfl

theorem readPieces_short {mark c : Char} (h : (mark, c) ∈ shortEscapes) (rest : List Symbol) :
    readPieces (some '\\' :: some mark :: rest) =
      (readPieces rest).map fun (pieces, rest) => (.char c :: pieces, rest) := by
  have hall : shortEscapes.all (fun e => e.1 != 'u' && escaped? (some e.1) == some e.2) = true := by
    decide
  have hentry := List.all_eq_true.1 hall _ h
  rw [Bool.and_eq_true, bne_iff_ne, beq_iff_eq] at hentry
  obtain ⟨hmark, hescaped⟩ := hentry
  rw [readPieces]
  · rw [hescaped]
  · intro _ _ _ _ _ hu
    exact absurd (Option.some.inj hu) hmark

theorem readPieces_plain {c : Char} (hquote : c ≠ '"') (hescape : c ≠ '\\')
    (hcontrol : 0x20 ≤ c.toNat) (rest : List Symbol) :
    readPieces (some c :: rest) =
      (readPieces rest).map fun (pieces, rest) => (.char c :: pieces, rest) := by
  rw [readPieces]
  · rw [if_neg (Nat.not_lt.2 hcontrol)]
  · exact hquote
  · exact fun _ _ _ _ _ _ => hescape
  · exact fun _ _ _ => hescape

/-- A unit that is no half of a character is a character of its own. -/
theorem textOfPieces?_unit {n : Nat} (hlead : isLeadUnit n = false) (htrail : isTrailUnit n = false)
    (pieces : List Piece) :
    textOfPieces? (.unit n :: pieces) = (textOfPieces? pieces).map (Char.ofNat n :: ·) := by
  rw [textOfPieces?.eq_def]
  split <;> simp_all

/-- No character is a half of one. -/
theorem not_half (c : Char) : isLeadUnit c.toNat = false ∧ isTrailUnit c.toNat = false := by
  have hvalid : c.toNat < 0xd800 ∨ 0xdfff < c.toNat ∧ c.toNat < 0x110000 := c.valid
  simp only [isLeadUnit, isTrailUnit, ← Bool.decide_and, decide_eq_false_iff_not]
  omega

/-- A character of a string is read as pieces that stand for it, whatever follows. -/
theorem readPieces_stringChar {c : Char} {text rest : List Char} (h : StringChar text c rest) :
    ∃ start : List Piece, readPieces (text.map some) =
        (readPieces (rest.map some)).map (fun (pieces, rest) => (start ++ pieces, rest)) ∧
      ∀ pieces, textOfPieces? (start ++ pieces) = (textOfPieces? pieces).map (c :: ·) := by
  cases h with
  | plain hquote hescape hcontrol =>
    exact ⟨[.char c], readPieces_plain hquote hescape hcontrol _, fun _ => rfl⟩
  | short h => exact ⟨[.char c], readPieces_short h _, fun _ => rfl⟩
  | unit h =>
    obtain ⟨hlead, htrail⟩ := not_half c
    refine ⟨[.unit c.toNat], readPieces_unit h, fun pieces => ?_⟩
    rw [List.singleton_append, textOfPieces?_unit hlead htrail, Char.ofNat_toNat]
  | @pair _ m n _ _ _ hm hn hlead htrail hc =>
    refine ⟨[.unit m, .unit n], ?_, fun pieces => ?_⟩
    · rw [readPieces_unit hm, readPieces_unit hn]
      cases readPieces (rest.map some) <;> rfl
    · have hm' : isLeadUnit m = true := by
        simp only [isLeadUnit, Bool.and_eq_true, decide_eq_true_eq]
        omega
      have hn' : isTrailUnit n = true := by
        simp only [isTrailUnit, Bool.and_eq_true, decide_eq_true_eq]
        omega
      show textOfPieces? (.unit m :: .unit n :: pieces) = _
      rw [textOfPieces?, if_pos hm', if_pos hn', ← hc, Char.ofNat_toNat]

/-- The rest of a string is read as pieces that make its text. -/
theorem readPieces_stringTail : ∀ {text cs rest : List Char}, StringTail text cs rest →
    ∃ pieces, readPieces (text.map some) = .ok (pieces, rest.map some) ∧
      textOfPieces? pieces = some cs
  | _, _, _, .close => ⟨[], by rw [List.map_cons, readPieces], rfl⟩
  | _, _, _, .char hc hcs => by
    obtain ⟨start, hstart, htext⟩ := readPieces_stringChar hc
    obtain ⟨pieces, hpieces, hcs⟩ := readPieces_stringTail hcs
    refine ⟨start ++ pieces, ?_, by rw [htext, hcs, Option.map_some]⟩
    rw [hstart, hpieces]
    rfl

theorem dropWhile_blanks {text rest : List Char} (h : Blanks text rest) :
    (text.map some).dropWhile isSpace = (rest.map some).dropWhile isSpace := by
  obtain ⟨blanks, hblanks, rfl⟩ := h
  have hspace : [' ', '\t', '\n', '\r'].all (fun c => isSpace (some c)) = true := by decide
  induction blanks with
  | nil => rfl
  | cons c blanks ih =>
    rw [List.cons_append, List.map_cons,
      List.dropWhile_cons_of_pos (List.all_eq_true.1 hspace c (hblanks c List.mem_cons_self))]
    exact ih fun d hd => hblanks d (List.mem_cons_of_mem _ hd)

theorem nextToken_blanks {text rest : List Char} {c : Char} (h : Blanks text (c :: rest))
    (hc : isSpace (some c) = false) :
    nextToken (text.map some) = readToken (some c) (rest.map some) := by
  unfold nextToken
  rw [dropWhile_blanks h, List.map_cons, List.dropWhile_cons_of_neg (by rw [hc]; simp)]

theorem nextToken_string {start text cs rest : List Char} (h : Blanks start ('"' :: text))
    (hcs : StringTail text cs rest) :
    nextToken (start.map some) = .ok (.string (some cs), rest.map some) := by
  obtain ⟨pieces, hpieces, htext⟩ := readPieces_stringTail hcs
  rw [nextToken_blanks h (by decide)]
  simp only [readToken, hpieces, Except.map, htext]

theorem readMark_blanks {text rest : List Char} {c : Char} {t : Token}
    (h : Blanks text (c :: rest)) (hc : isSpace (some c) = false)
    (ht : readToken (some c) (rest.map some) = .ok (t, rest.map some)) :
    readMark t (text.map some) = .ok (rest.map some) := by
  unfold readMark
  rw [nextToken_blanks h hc, ht]
  exact if_pos rfl

theorem readKey_blanks {start name colon : List Char} {key : String}
    (hquote : Blanks start ('"' :: name)) (hname : StringTail name key.toList colon) :
    readKey (start.map some) = .ok (key, colon.map some) := by
  unfold readKey
  rw [nextToken_string hquote hname]
  simp only [keyOfToken, String.ofList_toList, Except.map]

variable {fields : List Field} {found : Found}

/-- The fields for members that are strings, the last member first. -/
def foundTexts (ms : List (String × String)) : Found :=
  (ms.map fun m => (m.1, FieldValue.text m.2)).reverse

theorem readMember_text {f : Field} {key s : String} {colon afterColon value rest : List Char}
    (hfield : fields.find? (·.name = key) = some f) (hkind : f.kind = .text)
    (hnew : found.get? key = none) (hcolon : Blanks colon (':' :: afterColon))
    (hblanks : Blanks afterColon value) (hvalue : IsValue value (.text s) rest) :
    readMember fields found key (colon.map some) =
      .ok ((key, .text s) :: found, rest.map some) := by
  cases hvalue with
  | text hs =>
    have hmark : readMark .colon (colon.map some) = .ok (afterColon.map some) :=
      readMark_blanks hcolon (by decide) rfl
    have htext : readText (afterColon.map some) = .ok (s, rest.map some) := by
      unfold readText
      rw [nextToken_string hblanks hs]
      simp only [String.ofList_toList]
    unfold readMember
    rw [hfield]
    dsimp only
    rw [hnew, hmark, hkind]
    simp only [Except.bind, readField, htext]
    rfl

theorem get?_cons_of_not_mem {m : String × String} {ms : List (String × String)} {v : FieldValue}
    (hm : m.1 ∉ ms.map (·.1)) (hnew : ∀ m' ∈ ms, found.get? m'.1 = none) :
    ∀ m' ∈ ms, Found.get? ((m.1, v) :: found) m'.1 = none := by
  intro m' hm'
  have hne : m.1 ≠ m'.1 := fun h => hm (List.mem_map.2 ⟨m', hm', h.symm⟩)
  simpa [Found.get?, hne] using hnew m' hm'

theorem foundTexts_cons (m : String × String) (ms : List (String × String)) :
    foundTexts (m :: ms) = foundTexts ms ++ [(m.1, .text m.2)] := by
  simp [foundTexts]

/-- What follows a member is read to the end of the object, if the members are strings and fields
that have not been found. -/
theorem readMembers_of_tail : ∀ {ms : List (String × String)} {found : Found}
    {text rest : List Char}, MembersTail text (ms.map fun m => (m.1, .text m.2)) rest →
    (∀ m ∈ ms, ∃ f, fields.find? (·.name = m.1) = some f ∧ f.kind = .text) →
    (∀ m ∈ ms, found.get? m.1 = none) → (ms.map (·.1)).Nodup →
    isComplete fields (foundTexts ms ++ found) = true →
    readMembers fields found (text.map some) = .ok (foundTexts ms ++ found, rest.map some)
  | [], found, _, rest, .close h, _, _, _, hcomplete => by
    rw [readMembers_eq, nextToken_blanks h (by decide)]
    exact if_pos hcomplete
  | m :: ms, found, text, rest, .member hcomma (.intro hquote hname hcolon hblanks hvalue) hms,
      hfields, hnew, hnodup, hcomplete => by
    obtain ⟨f, hfield, hkind⟩ := hfields m List.mem_cons_self
    obtain ⟨hne, hnodup⟩ := List.nodup_cons.1 hnodup
    have hmember := readMember_text hfield hkind (hnew m List.mem_cons_self) hcolon hblanks hvalue
    rw [foundTexts_cons, List.append_assoc, List.singleton_append] at hcomplete ⊢
    rw [readMembers_eq, nextToken_blanks hcomma (by decide)]
    simp only [readToken, readKey_blanks hquote hname, hmember]
    exact readMembers_of_tail hms (fun m' hm' => hfields m' (List.mem_cons_of_mem _ hm'))
      (get?_cons_of_not_mem hne fun m' hm' => hnew m' (List.mem_cons_of_mem _ hm')) hnodup
      hcomplete

/-- An object whose members are strings and all known fields is read as these fields. -/
theorem readRecord_of_isObject {ms : List (String × String)} {text : List Char}
    (h : IsObject text (ms.map fun m => (m.1, .text m.2)))
    (hfields : ∀ m ∈ ms, ∃ f, fields.find? (·.name = m.1) = some f ∧ f.kind = .text)
    (hnodup : (ms.map (·.1)).Nodup) (hcomplete : isComplete fields (foundTexts ms) = true) :
    ∃ rest, readRecord fields (text.map some) = .ok (foundTexts ms, rest) := by
  match ms, h with
  | m :: ms, .intro hopen (.intro hquote hname hcolon hblanks hvalue) hms hend =>
    obtain ⟨f, hfield, hkind⟩ := hfields m List.mem_cons_self
    obtain ⟨hne, hnodup⟩ := List.nodup_cons.1 hnodup
    have hmember : readMember fields [] m.1 _ = .ok ([(m.1, .text m.2)], _) :=
      readMember_text hfield hkind rfl hcolon hblanks hvalue
    rw [foundTexts_cons] at hcomplete ⊢
    have hmembers := readMembers_of_tail hms (fun m' hm' => hfields m' (List.mem_cons_of_mem _ hm'))
      (get?_cons_of_not_mem hne fun _ _ => rfl) hnodup hcomplete
    refine ⟨_, Eq.trans ?_ hmembers⟩
    unfold readRecord
    rw [nextToken_blanks hopen (by decide)]
    simp only [readToken, readObject]
    rw [nextToken_string hquote hname]
    simp only [keyOfToken, String.ofList_toList, hmember]

end Reading

section Writing

theorem hexDigit_hexDigit {n : Nat} (h : n < 16) : HexDigit (hexDigit n) n := by
  have hall : ∀ i : Fin 16, "0123456789abcdef".toList[i.val]? = some (hexDigit i) := by decide
  exact .inl (hall ⟨n, h⟩)

theorem stringChar_escapeChar (c : Char) (rest : List Char) :
    StringChar (escapeChar c ++ rest) c rest := by
  unfold escapeChar
  split_ifs with hquote hescape hb hf hn hr ht hcontrol
  · subst hquote
    exact .short (by decide)
  · subst hescape
    exact .short (by decide)
  · subst hb
    exact .short (by decide)
  · subst hf
    exact .short (by decide)
  · subst hn
    exact .short (by decide)
  · subst hr
    exact .short (by decide)
  · subst ht
    exact .short (by decide)
  · have hzero : HexDigit '0' 0 := hexDigit_hexDigit (by decide)
    have hunit : HexUnit ('0' :: '0' :: hexDigit _ :: hexDigit _ :: rest) _ rest :=
      .intro hzero hzero (hexDigit_hexDigit (show c.toNat / 16 < 16 by omega))
        (hexDigit_hexDigit (show c.toNat % 16 < 16 by omega))
    rw [show ((0 * 16 + 0) * 16 + c.toNat / 16) * 16 + c.toNat % 16 = c.toNat by omega] at hunit
    exact .unit hunit
  · exact .plain hquote hescape (Nat.not_lt.1 hcontrol)

theorem stringTail_escaped : ∀ (cs rest : List Char),
    StringTail (cs.flatMap escapeChar ++ '"' :: rest) cs rest
  | [], _ => .close
  | c :: cs, rest => by
    rw [List.flatMap_cons, List.append_assoc]
    exact .char (stringChar_escapeChar c _) (stringTail_escaped cs rest)

/-- A value as it is written. -/
def Value.written : Value → String
  | text s => quote s
  | bool b => writeBool b

theorem toList_quote (s : String) (rest : List Char) :
    (quote s).toList ++ rest = '"' :: (s.toList.flatMap escapeChar ++ '"' :: rest) := by
  simp [quote]

theorem isValue_written (v : Value) (rest : List Char) :
    IsValue (v.written.toList ++ rest) v rest := by
  cases v with
  | text s =>
    rw [Value.written, toList_quote]
    exact .text (stringTail_escaped s.toList rest)
  | bool b => exact .bool b rest

theorem blanks_self (text : List Char) : Blanks text text := ⟨[], by simp, rfl⟩

/-- A member as it is written. -/
def writtenMember (m : String × Value) : String := quote m.1 ++ ":" ++ m.2.written

theorem isMember_written (m : String × Value) (rest : List Char) :
    IsMember ((writtenMember m).toList ++ rest) m rest := by
  have htext : (writtenMember m).toList ++ rest =
      '"' :: (m.1.toList.flatMap escapeChar ++ '"' :: ':' :: (m.2.written.toList ++ rest)) := by
    simp [writtenMember, quote]
  rw [htext]
  exact .intro (blanks_self _) (stringTail_escaped _ _) (blanks_self _) (blanks_self _)
    (isValue_written m.2 rest)

theorem membersTail_written : ∀ (ms : List (String × Value)) (rest : List Char),
    MembersTail (ms.flatMap (fun m => ',' :: (writtenMember m).toList) ++ '\x7d' :: rest) ms rest
  | [], _ => .close (blanks_self _)
  | m :: ms, rest => by
    rw [List.flatMap_cons, List.append_assoc, List.cons_append]
    exact .member (blanks_self _) (isMember_written m _) (membersTail_written ms rest)

theorem toList_intercalate_written : ∀ (m : String × Value) (ms : List (String × Value)),
    (String.intercalate "," ((m :: ms).map writtenMember)).toList =
      (writtenMember m).toList ++ ms.flatMap fun m => ',' :: (writtenMember m).toList
  | m, [] => (List.append_nil _).symm
  | m, m' :: ms => by
    rw [List.map_cons, List.map_cons, String.intercalate_cons_cons, ← List.map_cons,
      String.toList_append, toList_intercalate_written m' ms]
    simp

/-- What is written of members that are strings or truth values is an object with them. -/
theorem isObject_writeObject (m : String × Value) (ms : List (String × Value)) :
    IsObject (writeObject ((m :: ms).map fun m => (m.1, m.2.written))).toList (m :: ms) := by
  have htext : (writeObject ((m :: ms).map fun m => (m.1, m.2.written))).toList =
      '\x7b' :: ((writtenMember m).toList ++
        (ms.flatMap (fun m => ',' :: (writtenMember m).toList) ++ ['\x7d'])) := by
    unfold writeObject
    rw [List.map_map]
    change (("\x7b" ++ String.intercalate "," ((m :: ms).map writtenMember)) ++ "\x7d").toList = _
    simp only [String.toList_append, toList_intercalate_written]
    simp
  rw [htext]
  exact .intro (blanks_self _) (isMember_written m _) (membersTail_written ms []) (blanks_self _)

end Writing

section Unambiguous

theorem eq_of_map_some {cs cs' : List Char} (h : cs.map some = cs'.map some) : cs = cs' :=
  (List.map_inj_right fun _ _ => Option.some.inj).1 h

theorem StringTail.unique {text cs cs' rest rest' : List Char} (h : StringTail text cs rest)
    (h' : StringTail text cs' rest') : cs = cs' ∧ rest = rest' := by
  obtain ⟨pieces, hread, htext⟩ := readPieces_stringTail h
  obtain ⟨pieces', hread', htext'⟩ := readPieces_stringTail h'
  rw [hread, Except.ok.injEq, Prod.mk.injEq] at hread'
  obtain ⟨rfl, hrest⟩ := hread'
  rw [htext, Option.some.injEq] at htext'
  exact ⟨htext', eq_of_map_some hrest⟩

theorem Blanks.unique {text rest rest' : List Char} {c c' : Char} (h : Blanks text (c :: rest))
    (h' : Blanks text (c' :: rest')) (hc : isSpace (some c) = false)
    (hc' : isSpace (some c') = false) : c = c' ∧ rest = rest' := by
  have hdrop := (dropWhile_blanks h).symm.trans (dropWhile_blanks h')
  rw [List.map_cons, List.map_cons, List.dropWhile_cons_of_neg (by simp [hc]),
    List.dropWhile_cons_of_neg (by simp [hc']), List.cons.injEq] at hdrop
  exact ⟨Option.some.inj hdrop.1, eq_of_map_some hdrop.2⟩

/-- A value does not start with a blank. -/
theorem IsValue.exists_cons {text rest : List Char} {v : Value} (h : IsValue text v rest) :
    ∃ c after, text = c :: after ∧ isSpace (some c) = false := by
  cases h with
  | text => exact ⟨_, _, rfl, by decide⟩
  | bool b => cases b <;> exact ⟨_, _, rfl, by decide⟩

theorem IsValue.unique {text text' rest rest' : List Char} {v v' : Value}
    (h : IsValue text v rest) (h' : IsValue text' v' rest') (htext : text = text') :
    v = v' ∧ rest = rest' := by
  cases h with
  | text hs =>
    cases h' with
    | text hs' =>
      obtain rfl := (List.cons.inj htext).2
      obtain ⟨hs, rfl⟩ := hs.unique hs'
      rw [String.toList_inj.1 hs]
      exact ⟨rfl, rfl⟩
    | bool b => cases b <;> simp at htext
  | bool b =>
    cases h' with
    | text => cases b <;> simp at htext
    | bool b' => cases b <;> cases b' <;> simp_all

theorem IsMember.unique {text rest rest' : List Char} {m m' : String × Value}
    (h : IsMember text m rest) (h' : IsMember text m' rest') : m = m' ∧ rest = rest' := by
  obtain ⟨hquote, hname, hcolon, hblanks, hvalue⟩ := h
  obtain ⟨hquote', hname', hcolon', hblanks', hvalue'⟩ := h'
  obtain ⟨-, rfl⟩ := hquote.unique hquote' (by decide) (by decide)
  obtain ⟨hkey, rfl⟩ := hname.unique hname'
  obtain ⟨-, rfl⟩ := hcolon.unique hcolon' (by decide) (by decide)
  obtain ⟨c, after, rfl, hc⟩ := hvalue.exists_cons
  obtain ⟨c', after', rfl, hc'⟩ := hvalue'.exists_cons
  obtain ⟨rfl, rfl⟩ := hblanks.unique hblanks' hc hc'
  obtain ⟨rfl, rfl⟩ := hvalue.unique hvalue' rfl
  rw [String.toList_inj.1 hkey]
  exact ⟨rfl, rfl⟩

theorem MembersTail.unique : ∀ {ms ms' : List (String × Value)} {text rest rest' : List Char},
    MembersTail text ms rest → MembersTail text ms' rest' → ms = ms'
  | [], [], _, _, _, _, _ => rfl
  | [], _ :: _, _, _, _, .close h, .member hcomma _ _ =>
    absurd (h.unique hcomma (by decide) (by decide)).1 (by decide)
  | _ :: _, [], _, _, _, .member hcomma _ _, .close h =>
    absurd (h.unique hcomma (by decide) (by decide)).1 (by decide)
  | _ :: _, _ :: _, _, _, _, .member hcomma hm hms, .member hcomma' hm' hms' => by
    obtain ⟨-, rfl⟩ := hcomma.unique hcomma' (by decide) (by decide)
    obtain ⟨rfl, rfl⟩ := hm.unique hm'
    rw [hms.unique hms']

/-- A text is an object with no more than one list of members. -/
theorem IsObject.unique {text : List Char} {ms ms' : List (String × Value)}
    (h : IsObject text ms) (h' : IsObject text ms') : ms = ms' := by
  obtain ⟨hopen, hm, hms, -⟩ := h
  obtain ⟨hopen', hm', hms', -⟩ := h'
  obtain ⟨-, rfl⟩ := hopen.unique hopen' (by decide) (by decide)
  obtain ⟨rfl, rfl⟩ := hm.unique hm'
  rw [hms.unique hms']

/-- An object has the members that its text gives, in any order, and no others. -/
theorem encodes_iff {text : List Char} {ms members : List (String × Value)}
    (h : IsObject text ms) : Encodes text members ↔ members.Perm ms := by
  constructor
  · rintro ⟨ordered, hperm, hobject⟩
    rw [h.unique hobject]
    exact hperm.symm
  · exact fun hperm => ⟨ms, hperm.symm, h⟩

end Unambiguous

end Json

end ExpiringCache
