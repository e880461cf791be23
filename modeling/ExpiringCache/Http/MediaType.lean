/-!
# Media types

Which content types announce JSON: `application/json`, any `application` type with the suffix
`+json`, and `application/json` with any suffix, whatever parameters follow and in any case. A
content type that does not follow the grammar announces nothing.
-/

namespace ExpiringCache.Http

/-- Whether a character may stand in a name of a media type. -/
def isTokenChar (c : Char) : Bool :=
  c.isAlphanum || "!#$%&'*+-.^_|~\x60".toList.contains c

/-- Whether a character may stand in a quoted value. -/
def isQuotedChar (c : Char) : Bool := decide (31 < c.toNat) && c.toNat != 127

/-- The text after the closing quote of a value, of which something has been read or not. -/
def afterQuoted? (atStart : Bool) : List Char → Option (List Char)
  | [] => none
  | c :: rest =>
    if c = '"' ∧ ¬ atStart then some rest
    else if isQuotedChar c then afterQuoted? false rest
    else none

theorem afterQuoted?_length_lt {atStart : Bool} {text rest : List Char}
    (h : afterQuoted? atStart text = some rest) : rest.length < text.length := by
  induction text generalizing atStart with
  | nil => simp [afterQuoted?] at h
  | cons c text ih =>
    unfold afterQuoted? at h
    split at h
    · cases h
      exact Nat.lt_succ_self _
    · split at h
      · exact Nat.lt_succ_of_lt (ih h)
      · simp at h

/-- The text after a value that is not quoted and not empty before a semicolon. -/
def afterPlain? (text : List Char) : Option (List Char) :=
  match text.dropWhile isTokenChar with
  | [] => some []
  | ';' :: rest => if (text.takeWhile isTokenChar).isEmpty then none else some rest
  | _ => none

/-- The text after a quoted value and the semicolon behind it. -/
def afterClosing? (text : List Char) : Option (List Char) :=
  match text.dropWhile (· == ' ') with
  | [] => some []
  | ';' :: rest => some rest
  | _ => none

/-- The text after the value of a parameter. -/
def afterValue? (text : List Char) : Option (List Char) :=
  match text with
  | '"' :: rest => (afterQuoted? true rest).bind afterClosing?
  | text => afterPlain? text

theorem afterPlain?_length_le {text rest : List Char} (h : afterPlain? text = some rest) :
    rest.length ≤ text.length := by
  have hd := (List.dropWhile_sublist isTokenChar (l := text)).length_le
  unfold afterPlain? at h
  split at h
  · cases h
    exact Nat.zero_le _
  · rename_i ht
    rw [ht, List.length_cons] at hd
    split at h
    · simp at h
    · cases h
      omega
  · simp at h

theorem afterValue?_length_le {text rest : List Char} (h : afterValue? text = some rest) :
    rest.length ≤ text.length := by
  unfold afterValue? at h
  split at h
  · obtain ⟨u, hu, hc⟩ := Option.bind_eq_some_iff.1 h
    have h₁ := afterQuoted?_length_lt hu
    have hd := (List.dropWhile_sublist (· == ' ') (l := u)).length_le
    unfold afterClosing? at hc
    split at hc
    · cases hc
      exact Nat.zero_le _
    · rename_i ht
      rw [ht, List.length_cons] at hd
      cases hc
      rw [List.length_cons]
      omega
    · simp at hc
  · exact afterPlain?_length_le h

/-- Whether a text is a list of parameters, as it stands after the first semicolon. -/
def areParameters (text : List Char) : Bool :=
  match _h : text.dropWhile (· == ' ') with
  | [] => true
  | c :: rest =>
    let name := (c :: rest).takeWhile isTokenChar
    match _he : (c :: rest).dropWhile isTokenChar with
    | '=' :: value =>
      if name.isEmpty then false
      else
        match _hv : afterValue? value with
        | none => false
        | some after => areParameters after
    | _ => false
termination_by text.length
decreasing_by
  have h₁ := (List.dropWhile_sublist (· == ' ') (l := text)).length_le
  have h₂ := (List.dropWhile_sublist isTokenChar (l := c :: rest)).length_le
  have h₃ := afterValue?_length_le _hv
  rw [_h] at h₁
  rw [_he, List.length_cons] at h₂
  omega

/-- A name split at its last plus sign, if it has one after its first character. -/
def splitSuffix (name : List Char) : List Char × Option (List Char) :=
  let suffix := (name.reverse.takeWhile (· != '+')).reverse
  let before := name.take (name.length - suffix.length - 1)
  if name.contains '+' && ! before.isEmpty then (before, some suffix) else (name, none)

/-- Whether a content type announces JSON. -/
def announcesJson (contentType : String) : Bool :=
  let text := contentType.toList.map Char.toLower
  let type := text.takeWhile isTokenChar
  match text.dropWhile isTokenChar with
  | '/' :: rest =>
    let subtype := rest.takeWhile isTokenChar
    let wellFormed := match rest.dropWhile isTokenChar with
      | [] => true
      | ';' :: parameters => ! subtype.isEmpty && areParameters parameters
      | _ => false
    let (name, suffix) := splitSuffix subtype
    wellFormed && type == "application".toList &&
      (name == "json".toList || suffix == some "json".toList)
  | _ => false

end ExpiringCache.Http
