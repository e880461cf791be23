import ExpiringCache.Proofs.JsonText
import ExpiringCache.Proofs.Requests

/-!
# A pair that was stored

A pair that a client has stored without a time to live is found again: however its key and value
are written in the body, a request for the key with every byte escaped finds the same key and
value, whatever else has been asked meanwhile, as long as the key was not written again
(`stored_pair_survives`).
-/

namespace ExpiringCache

namespace Http

/-- A text is some bytes, each as a percent sign and two hexadecimal digits. -/
inductive PercentText : List Char → List UInt8 → Prop
  | nil : PercentText [] []
  | byte {c d : Char} {m n : Nat} {b : UInt8} {text : List Char} {bytes : List UInt8}
      (hc : HexDigit c m) (hd : HexDigit d n) (hb : b.toNat = m * 16 + n)
      (h : PercentText text bytes) : PercentText ('%' :: c :: d :: text) (b :: bytes)

section Percent

theorem toList_byteArray (bytes : ByteArray) : bytes.toList = bytes.data.toList := by
  have hloop : ∀ (n i : Nat) (read : List UInt8), bytes.size - i = n →
      ByteArray.toList.loop bytes i read = read.reverse ++ bytes.data.toList.drop i := by
    intro n
    induction n with
    | zero =>
      intro i read hi
      unfold ByteArray.toList.loop
      have hsize : bytes.data.toList.length ≤ i := Nat.le_of_sub_eq_zero hi
      rw [if_neg (by omega), List.drop_eq_nil_of_le hsize, List.append_nil]
    | succ n ih =>
      intro i read hi
      have hlt : i < bytes.data.toList.length := by
        show i < bytes.size
        omega
      have hget : bytes.get! i = bytes.data.toList[i] := by
        show bytes.data[i]! = _
        rw [getElem!_pos bytes.data i hlt, Array.getElem_toList]
      unfold ByteArray.toList.loop
      rw [if_pos (by omega), ih (i + 1) _ (by omega), List.reverse_cons, List.append_assoc,
        List.drop_eq_getElem_cons hlt, hget, List.singleton_append]
  exact hloop _ 0 [] rfl

theorem toUTF8_ofList_ascii {cs : List Char} (h : ∀ c ∈ cs, c.toNat < 128) :
    (String.ofList cs).toUTF8 = (cs.map Char.toUInt8).toByteArray := by
  rw [String.toUTF8_eq_toByteArray, String.toByteArray_ofList]
  induction cs with
  | nil => rfl
  | cons c cs ih =>
    have hsize : c.utf8Size = 1 := by
      rw [Char.utf8Size_eq_one_iff, UInt32.le_iff_toNat_le]
      exact Nat.le_of_lt_succ (h c List.mem_cons_self)
    rw [List.utf8Encode_cons, List.utf8Encode_singleton, String.utf8EncodeChar_eq_singleton hsize,
      ih fun d hd => h d (List.mem_cons_of_mem _ hd), ← List.toByteArray_append]
    rfl

theorem fromUTF8?_toUTF8 (s : String) : String.fromUTF8? s.toUTF8 = some s := by
  unfold String.fromUTF8?
  exact dif_pos s.isValidUTF8

/-- The characters of a text in which every byte is escaped. -/
def percentChars : List Char := "%0123456789abcdefABCDEF".toList

theorem mem_percentChars_of_hexDigit {c : Char} {n : Nat} (h : HexDigit c n) : c ∈ percentChars :=
  h.of_forall (P := fun c _ => c ∈ percentChars) (by decide) (by decide)

theorem hexDigit?_of_hexDigit {c : Char} {n : Nat} (h : HexDigit c n) :
    hexDigit? c.toUInt8 = some (UInt8.ofNat n) :=
  h.of_forall (P := fun c n => hexDigit? c.toUInt8 = some (UInt8.ofNat n)) (by decide) (by decide)

theorem PercentText.mem_percentChars {text : List Char} {bytes : List UInt8}
    (h : PercentText text bytes) : ∀ c ∈ text, c ∈ percentChars := by
  induction h with
  | nil => simp
  | byte hc hd _ _ ih =>
    simp only [List.forall_mem_cons]
    exact ⟨by decide, mem_percentChars_of_hexDigit hc, mem_percentChars_of_hexDigit hd, ih⟩

theorem PercentText.ascii {text : List Char} {bytes : List UInt8} (h : PercentText text bytes) :
    ∀ c ∈ text, c.toNat < 128 := by
  have hall : percentChars.all (fun c => decide (c.toNat < 128)) = true := by decide
  exact fun c hc => of_decide_eq_true (List.all_eq_true.1 hall c (h.mem_percentChars c hc))

theorem PercentText.plain {text : List Char} {bytes : List UInt8} (h : PercentText text bytes) :
    ∀ c ∈ text, c ≠ '?' ∧ c ≠ '#' ∧ c ≠ '/' := by
  have hall : percentChars.all (fun c => c != '?' && c != '#' && c != '/') = true := by decide
  intro c hc
  simpa [and_assoc] using List.all_eq_true.1 hall c (h.mem_percentChars c hc)

/-- Bytes that are escaped are decoded once. -/
theorem percentDecode_of_percentText {text : List Char} {bytes : List UInt8}
    (h : PercentText text bytes) : percentDecode (text.map Char.toUInt8) = bytes := by
  induction h with
  | nil => rfl
  | @byte c d m n b text bytes hc hd hb _ ih =>
    have hm := hc.lt
    have hn := hd.lt
    have hbyte : UInt8.ofNat m * 16 + UInt8.ofNat n = b := by
      rw [← UInt8.toNat_inj, hb]
      simp only [UInt8.toNat_add, UInt8.toNat_mul, UInt8.toNat_ofNat', UInt8.toNat_ofNat]
      omega
    show percentDecode (37 :: c.toUInt8 :: d.toUInt8 :: text.map Char.toUInt8) = _
    rw [percentDecode, hexDigit?_of_hexDigit hc, hexDigit?_of_hexDigit hd]
    dsimp only
    rw [hbyte, ih]

theorem keyOfSegment?_of_percentText {segment key : String}
    (h : PercentText segment.toList key.toUTF8.data.toList) : keyOfSegment? segment = some key := by
  have hsegment : segment.toUTF8.toList = segment.toList.map Char.toUInt8 := by
    rw [toList_byteArray, ← String.ofList_toList (s := segment), toUTF8_ofList_ascii h.ascii]
    simp
  unfold keyOfSegment?
  rw [hsegment, percentDecode_of_percentText h]
  exact fromUTF8?_toUTF8 key

end Percent

section Storing

variable {r : Request} {text key value : String}

theorem eq_or_eq_of_perm_pair {α : Type} {a b : α} {l : List α} (h : l.Perm [a, b]) :
    l = [a, b] ∨ l = [b, a] := by
  match l, h.length_eq with
  | [x, y], _ =>
    rcases List.mem_cons.1 (h.mem_iff.1 List.mem_cons_self) with rfl | hx
    · exact .inl (by rw [List.singleton_perm_singleton.1 (List.perm_cons _ |>.1 h)])
    · obtain rfl := List.mem_singleton.1 hx
      have hswapped := h.trans (.swap x a [])
      exact .inr (by rw [List.singleton_perm_singleton.1 (List.perm_cons _ |>.1 hswapped)])

/-- A body with a key and a value and nothing else is read as a pair without a time to live. -/
theorem readLeading_of_encodes
    (h : Json.Encodes text.toList [("key", .text key), ("value", .text value)]) :
    ∃ rest, Json.readLeading SetRequest.fields SetRequest.ofFound? (Json.symbols text.toUTF8) =
      .ok (⟨key, value, ""⟩, rest) := by
  have hsymbols : Json.symbols text.toUTF8 = text.toList.map some := by
    unfold Json.symbols
    rw [fromUTF8?_toUTF8]
    rfl
  obtain ⟨ordered, hperm, hobject⟩ := h
  rw [hsymbols]
  have hread : ∀ ms : List (String × String), ms.Perm [("key", key), ("value", value)] →
      Json.IsObject text.toList (ms.map fun m => (m.1, .text m.2)) →
      Json.isComplete SetRequest.fields (Json.foundTexts ms) = true →
      ∃ rest, Json.readRecord SetRequest.fields (text.toList.map some) =
        .ok (Json.foundTexts ms, rest) := by
    intro ms hms hobject hcomplete
    have hkeys : (ms.map (·.1)).Perm ["key", "value"] := hms.map _
    refine Json.readRecord_of_isObject hobject (fun m hm => ?_) (hkeys.nodup_iff.2 (by decide))
      hcomplete
    rcases List.mem_cons.1 (hms.mem_iff.1 hm) with rfl | hm
    · exact ⟨_, rfl, rfl⟩
    · obtain rfl := List.mem_singleton.1 hm
      exact ⟨_, rfl, rfl⟩
  unfold Json.readLeading
  rcases eq_or_eq_of_perm_pair hperm with rfl | rfl
  · obtain ⟨rest, hread⟩ := hread [("key", key), ("value", value)] (.refl _) hobject rfl
    rw [hread]
    exact ⟨rest, rfl⟩
  · obtain ⟨rest, hread⟩ := hread [("value", value), ("key", key)] (.swap ..) hobject rfl
    rw [hread]
    exact ⟨rest, rfl⟩

theorem read_of_readLeading {α : Type} {fields : List Json.Field} {ofFound? : Json.Found → Option α}
    {q : α} {rest : List Json.Symbol}
    (h : Json.readLeading fields ofFound? (Json.symbols r.body) = .ok (q, rest)) :
    (∃ refusal, r.read fields ofFound? = .error refusal) ∨ r.read fields ofFound? = .ok q := by
  unfold Request.read
  rw [h]
  split
  · exact .inl ⟨_, rfl⟩
  · split_ifs
    · exact .inl ⟨_, rfl⟩
    · exact .inl ⟨_, rfl⟩
    · exact .inr rfl

theorem Refusal.status_ne (refusal : Refusal) : refusal.status ≠ 200 := by
  cases refusal <;> decide

namespace Server

variable {s : Server} {now : Instant} {timestamp : String}

/-- A set that is answered 200 has stored the pair in its body. -/
theorem lookup_of_stored (hkey : key ≠ "") (hmethod : r.method = "PUT") (huri : r.uri = "/set")
    (hbody : r.body = text.toUTF8)
    (htext : Json.Encodes text.toList [("key", .text key), ("value", .text value)])
    (hstatus : (s.handle now timestamp r).1.status = 200) :
    (s.handle now timestamp r).2.engine.keyspace.lookup key = some ⟨value, none⟩ := by
  have hroute : r.route? = some .set := by
    unfold Request.route?
    rw [hmethod, huri]
    decide
  obtain ⟨rest, hleading⟩ := readLeading_of_encodes htext
  rw [← hbody] at hleading
  rcases read_of_readLeading hleading with ⟨refusal, hread⟩ | hread
  · rw [status_of_route hroute, carryOut, set, hread] at hstatus
    exact absurd hstatus refusal.status_ne
  · have hvalid : SetRequest.invalid? ⟨key, value, ""⟩ = none := by
      unfold SetRequest.invalid?
      exact if_neg (by simpa using hkey)
    have hcall := Request.call?_set hroute hread hvalid now
    rw [handle_eq, hcall, afterCall_some]
    show (s.engine.keyspace.set s.engine.sampleThreshold key value "" now).state.lookup key = _
    rw [Keyspace.state_set_of_ok (t := none) rfl, Keyspace.lookup_insert, if_pos rfl]

end Server

end Storing

section Lasting

variable {key value : String}

/-- Whether an event gives a key a new entry, or none. -/
def Event.Overwrites (key : String) : Event → Prop
  | .request now _ r => ∃ c, r.call? now = some c ∧ c.Overwrites key
  | .ticks _ _ => False

theorem lookup_of_keptOrExpired {ks after : Keyspace} {readings : List Instant}
    (h : ks.KeptOrExpired after key readings) (hlookup : ks.lookup key = some ⟨value, none⟩) :
    after.lookup key = some ⟨value, none⟩ := by
  rcases h with h | ⟨-, e, he, t, -, hexp⟩
  · rw [h, hlookup]
  · rw [hlookup, Option.some.injEq] at he
    subst he
    simp [Entry.isExpiredAt] at hexp

theorem lookup_ticks (e : Evictor) (now : Instant) : ∀ (count : Nat) {ks : Keyspace},
    ks.lookup key = some ⟨value, none⟩ →
    (e.ticks ks now count).state.lookup key = some ⟨value, none⟩
  | 0, _, h => h
  | count + 1, ks, h => by
    show (e.ticks (e.tick ks now).state now count).state.lookup key = _
    refine lookup_ticks e now count ?_
    unfold Evictor.tick
    split
    · exact lookup_of_keptOrExpired
        (ks.lookup_execute_of_not_overwrites 0 (c := .sweep now e.batch) id) h
    · exact h

/-- A pair without a time to live outlasts every event that does not write its key. -/
theorem Server.lookup_after {s : Server} {e : Event}
    (h : s.engine.keyspace.lookup key = some ⟨value, none⟩) (he : ¬ e.Overwrites key) :
    (s.after e).engine.keyspace.lookup key = some ⟨value, none⟩ := by
  cases e with
  | request now timestamp r =>
    show (s.handle now timestamp r).2.engine.keyspace.lookup key = _
    rw [handle_eq]
    cases hcall : r.call? now with
    | none => exact h
    | some c =>
      rw [afterCall_some]
      exact lookup_of_keptOrExpired (Keyspace.lookup_perform_of_not_overwrites _ _
        fun hc => he ⟨c, hcall, hc⟩) h
  | ticks count now => exact lookup_ticks s.engine.evictor now count h

theorem Server.lookup_run : ∀ (events : List Event) {s : Server},
    s.engine.keyspace.lookup key = some ⟨value, none⟩ → (∀ e ∈ events, ¬ e.Overwrites key) →
    (s.run events).engine.keyspace.lookup key = some ⟨value, none⟩
  | [], _, h, _ => h
  | e :: events, _, h, he =>
    lookup_run events (lookup_after h (he e List.mem_cons_self))
      fun e' he' => he e' (List.mem_cons_of_mem _ he')

end Lasting

section Finding

variable {s : Server} {key value segment : String}

theorem pathOf_of_slash {cs : List Char} (h : ∀ c ∈ cs, c ≠ '?' ∧ c ≠ '#') :
    pathOf (String.ofList ('/' :: cs)) = '/' :: cs := by
  have hpath : ∀ c ∈ '/' :: cs, (c != '?' && c != '#') = true := by
    intro c hc
    rcases List.mem_cons.1 hc with rfl | hc
    · decide
    · simpa using h c hc
  have htake : ('/' :: cs ++ []).takeWhile (fun c => c != '?' && c != '#') = '/' :: cs ++ [] :=
    List.takeWhile_append_of_pos hpath
  rw [List.append_nil] at htake
  unfold pathOf
  rw [String.toList_ofList, htake]
  rfl

theorem ofPath?_get {cs : List Char} (hne : cs ≠ []) (hslash : '/' ∉ cs) :
    Route.ofPath? ("/get/".toList ++ cs) = some (.get (String.ofList cs)) := by
  have hsegment : segmentAfter? "/get/" ("/get/".toList ++ cs) = some (String.ofList cs) := by
    have hdrop : ("/get/".toList ++ cs).drop "/get/".length = cs := List.drop_left
    have hgood : (cs.isEmpty || cs.contains '/') = false := by
      simp [hne, hslash]
    unfold segmentAfter?
    rw [if_pos (by simp), hdrop]
    dsimp only
    rw [hgood]
    rfl
  have hother : ∀ path ∈ ["/set", "/search", "/reset", "/stats", "/health"],
      "/get/".toList ++ cs ≠ path.toList := by
    intro path hpath heq
    have hall : ∀ path ∈ ["/set", "/search", "/reset", "/stats", "/health"],
        "/get/".toList.isPrefixOf path.toList = false := by decide
    have hprefix := hall path hpath
    rw [← heq] at hprefix
    simp at hprefix
  unfold Route.ofPath?
  rw [if_neg (hother "/set" (by simp)), if_neg (hother "/search" (by simp)),
    if_neg (hother "/reset" (by simp)), if_neg (hother "/stats" (by simp)),
    if_neg (hother "/health" (by simp)), hsegment]
  rfl

/-- A request for a key with every byte escaped asks for this key. -/
theorem route?_get {r : Request} (hkey : key ≠ "") (hmethod : r.method = "GET")
    (huri : r.uri = "/get/" ++ segment)
    (hsegment : PercentText segment.toList key.toUTF8.data.toList) :
    r.route? = some (.get segment) := by
  have hchars := hsegment.plain
  have hne : segment.toList ≠ [] := by
    intro hnil
    obtain rfl := String.toList_eq_nil_iff.1 hnil
    have hempty : keyOfSegment? "" = some "" := keyOfSegment?_of_percentText .nil
    rw [keyOfSegment?_of_percentText hsegment, Option.some.injEq] at hempty
    exact hkey hempty
  have hpath : pathOf r.uri = "/get/".toList ++ segment.toList := by
    have hget : "get/".toList.all (fun c => c != '?' && c != '#') = true := by decide
    have huri' : r.uri = String.ofList ('/' :: ("get/".toList ++ segment.toList)) := by
      rw [huri, ← String.toList_inj]
      simp
    rw [huri', pathOf_of_slash fun c hc => ?_]
    · rfl
    · rcases List.mem_append.1 hc with hc | hc
      · simpa using List.all_eq_true.1 hget c hc
      · exact ⟨(hchars c hc).1, (hchars c hc).2.1⟩
  unfold Request.route?
  rw [hmethod, hpath, ofPath?_get hne fun h => (hchars '/' h).2.2 rfl, String.ofList_toList]
  rfl

/-- A look-up of a pair without a time to live finds its value. -/
theorem answer_get {ks : Keyspace} (h : ks.lookup key = some ⟨value, none⟩) (now : Instant) :
    (ks.get key now now).answer = some value := by
  have hglance : ks.glance key now = .live value := by
    unfold Keyspace.glance
    rw [h]
    rfl
  show (Guarded.andThen ⟨ks.glance key now, ks, _⟩ _).answer = _
  unfold Guarded.andThen
  rw [hglance]
  rfl

/-- What is stored without a time to live is found under its key with every byte escaped. -/
theorem handle_get {r : Request} {now : Instant} {timestamp : String}
    (hlookup : s.engine.keyspace.lookup key = some ⟨value, none⟩) (hkey : key ≠ "")
    (hmethod : r.method = "GET") (huri : r.uri = "/get/" ++ segment)
    (hsegment : PercentText segment.toList key.toUTF8.data.toList) :
    (s.handle now timestamp r).1 = .ofPayload 200 (.get key value true) := by
  rw [Server.handle_of_route (route?_get hkey hmethod huri hsegment), hmethod]
  simp only [Server.carryOut, keyOfSegment?_of_percentText hsegment]
  show Answer.ofPayload 200 (.ofLookup key (s.engine.keyspace.get key now now).answer) = _
  rw [answer_get hlookup]
  rfl

/-- The answer to a look-up that found a value has three fields and no others. -/
theorem encodes_found_iff (key value : String) (members : List (String × Json.Value)) :
    Json.Encodes (Payload.get key value true).text.toList members ↔
      members.Perm [("key", .text key), ("value", .text value), ("found", .bool true)] :=
  Json.encodes_iff (Json.isObject_writeObject ("key", .text key)
    [("value", .text value), ("found", .bool true)])

/-- A pair that has been stored without a time to live is found again under its key with every
byte escaped, until its key is written again. The answer gives the key and the value as they were
stored, that they were found, and nothing else. -/
theorem stored_pair_survives {put get : Request} {now later : Instant}
    {timestamp timestamp' text : String} {events : List Event} (hkey : key ≠ "")
    (hput : put.method = "PUT" ∧ put.uri = "/set" ∧ put.body = text.toUTF8)
    (htext : Json.Encodes text.toList [("key", .text key), ("value", .text value)])
    (hstatus : (s.handle now timestamp put).1.status = 200)
    (hevents : ∀ e ∈ events, ¬ e.Overwrites key)
    (hget : get.method = "GET" ∧ get.uri = "/get/" ++ segment)
    (hsegment : PercentText segment.toList key.toUTF8.data.toList) :
    let answer := (((s.handle now timestamp put).2.run events).handle later timestamp' get).1
    answer.status = 200 ∧ ∃ p : Payload, answer.body = .json p ∧
      ∀ members, Json.Encodes p.text.toList members ↔
        members.Perm [("key", .text key), ("value", .text value), ("found", .bool true)] := by
  obtain ⟨hmethod, huri, hbody⟩ := hput
  have hstored := Server.lookup_of_stored hkey hmethod huri hbody htext hstatus
  have hkept := Server.lookup_run events hstored hevents
  dsimp only
  rw [handle_get hkept hkey hget.1 hget.2 hsegment]
  exact ⟨rfl, _, rfl, encodes_found_iff key value⟩

/-- A key with a slash, a percent sign, a quote and a letter of two bytes and an empty value, with
another key deleted and a sweep between. -/
theorem stored_pair_survives_reserved_characters :
    ∃ (put other get : Request) (now : Instant), get.uri = "/get/%61%2F%25%22%c3%a9" ∧
      let s := (Server.start .standard).handle now "" put
      s.1.status = 200 ∧
      let answer := ((s.2.run [.request now "" other, .ticks 1 now]).handle now "" get).1
      answer.status = 200 ∧ ∃ p : Payload, answer.body = .json p ∧
        ∀ members, Json.Encodes p.text.toList members ↔ members.Perm
          [("key", .text "a/%\"é"), ("value", .text ""), ("found", .bool true)] := by
  let request (method uri body : String) : Request :=
    ⟨method, uri, [("content-type", "application/json")], body.toUTF8⟩
  let text := Json.writeObject [("key", Json.quote "a/%\"é"), ("value", Json.quote "")]
  let other := request "DELETE" "/del/b" ""
  have htext : Json.Encodes text.toList [("key", .text "a/%\"é"), ("value", .text "")] :=
    ⟨_, .refl _, Json.isObject_writeObject ("key", .text "a/%\"é") [("value", .text "")]⟩
  let put := request "PUT" "/set" text
  have hstatus : ((Server.start .standard).handle (.early 0) "" put).1.status = 200 := by
    decide +kernel
  have hevents : ∀ e ∈ [Event.request (.early 0) "" other, .ticks 1 (.early 0)],
      ¬ e.Overwrites "a/%\"é" := by
    have hroute : other.route? = some (.delete "b") := by decide +kernel
    have hb : keyOfSegment? "b" = some "b" := by decide +kernel
    have hother : other.call? (.early 0) = some (.command (.del "b")) := by
      rw [Request.call?, hroute, Option.bind_some, Route.call?, hb, Option.map_some]
    intro e he
    rcases List.mem_cons.1 he with rfl | he
    · rintro ⟨c, hc, hover⟩
      rw [hother] at hc
      cases hc
      exact absurd hover (by decide : "b" ≠ "a/%\"é")
    · obtain rfl := List.mem_singleton.1 he
      exact id
  have hsegment : PercentText "%61%2F%25%22%c3%a9".toList "a/%\"é".toUTF8.data.toList := by
    have hbytes : "a/%\"é".toUTF8.data.toList = [0x61, 0x2f, 0x25, 0x22, 0xc3, 0xa9] := by
      decide +kernel
    rw [hbytes]
    exact .byte (m := 6) (n := 1) (.inl rfl) (.inl rfl) rfl
      (.byte (m := 2) (n := 15) (.inl rfl) (.inr rfl) rfl
      (.byte (m := 2) (n := 5) (.inl rfl) (.inl rfl) rfl
      (.byte (m := 2) (n := 2) (.inl rfl) (.inl rfl) rfl
      (.byte (m := 12) (n := 3) (.inl rfl) (.inl rfl) rfl
      (.byte (m := 10) (n := 9) (.inl rfl) (.inl rfl) rfl .nil)))))
  exact ⟨put, other, request "GET" "/get/%61%2F%25%22%c3%a9" "", .early 0, rfl, hstatus,
    stored_pair_survives (by decide) ⟨rfl, rfl, rfl⟩ htext hstatus hevents ⟨rfl, rfl⟩ hsegment⟩

end Finding

end Http

end ExpiringCache
