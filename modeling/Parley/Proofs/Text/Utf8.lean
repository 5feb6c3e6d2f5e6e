/-
This file settles that a text comes back from its file but for its line ends: what decodes
the bytes of a file undoes the encoding, character by character. It also says what becomes
of a text when its line ends are joined. A part without carriage returns stays as it is, and
nothing comes out that is neither a line feed nor was there before.
-/

import Parley.Text.Utf8

namespace Parley.Text

/-! ### Decoding what was encoded -/

theorem isContinuation_iff {byte : UInt8} :
    isContinuation byte = true ↔ 0x80 ≤ byte.toNat ∧ byte.toNat < 0xC0 := by
  rw [isContinuation, Bool.and_eq_true, decide_eq_true_iff, decide_eq_true_iff,
    UInt8.le_iff_toNat_le, UInt8.lt_iff_toNat_lt]
  rfl

theorem mayFollow_of {first second : UInt8} (continues : isContinuation second = true)
    (e0 : first.toNat = 0xE0 → 0xA0 ≤ second.toNat) (ed : first.toNat = 0xED → second.toNat < 0xA0)
    (f0 : first.toNat = 0xF0 → 0x90 ≤ second.toNat)
    (f4 : first.toNat = 0xF4 → second.toNat < 0x90) : mayFollow first second = true := by
  rw [mayFollow.eq_def, continues, Bool.true_and]
  split
  · exact decide_eq_true (UInt8.le_iff_toNat_le.2 (e0 rfl))
  · exact decide_eq_true (UInt8.lt_iff_toNat_lt.2 (ed rfl))
  · exact decide_eq_true (UInt8.le_iff_toNat_le.2 (f0 rfl))
  · exact decide_eq_true (UInt8.lt_iff_toNat_lt.2 (f4 rfl))
  · rfl

theorem decodeFrom_one (before : List Char) (position : Nat) {first : UInt8} (rest : List UInt8)
    (plain : first.toNat < 0x80) :
    decodeFrom before position (first :: rest) =
      decodeFrom (Char.ofNat first.toNat :: before) (position + 1) rest := by
  rw [decodeFrom.eq_def]
  exact if_pos (UInt8.lt_iff_toNat_lt.2 plain)

/-- A byte that begins a longer character. -/
structure Leads (first : UInt8) : Prop where
  above : 0xC2 ≤ first.toNat
  below : first.toNat ≤ 0xF4

theorem Leads.rest {first : UInt8} (leads : Leads first) :
    ¬ first < 0x80 ∧ ¬ (first < 0xC2 ∨ 0xF4 < first) := by
  have above := leads.above
  have below := leads.below
  rw [UInt8.lt_iff_toNat_lt, UInt8.lt_iff_toNat_lt, UInt8.lt_iff_toNat_lt]
  simp only [UInt8.toNat_ofNat]
  omega

theorem decodeFrom_two (before : List Char) (position : Nat) {first second : UInt8}
    (rest : List UInt8) (leads : Leads first) (short : first.toNat < 0xE0)
    (follows : mayFollow first second = true) :
    decodeFrom before position (first :: second :: rest) =
      decodeFrom (Char.ofNat ((first.toNat % 0x20) * 0x40 + payload second) :: before)
        (position + 2) rest := by
  rw [decodeFrom.eq_def]
  dsimp only
  rw [if_neg leads.rest.1, if_neg leads.rest.2, follows, Bool.not_true,
    if_neg Bool.false_ne_true]
  exact if_pos (UInt8.lt_iff_toNat_lt.2 short)

theorem decodeFrom_three (before : List Char) (position : Nat) {first second third : UInt8}
    (rest : List UInt8) (leads : Leads first) (long : 0xE0 ≤ first.toNat)
    (short : first.toNat < 0xF0) (follows : mayFollow first second = true)
    (continues : isContinuation third = true) :
    decodeFrom before position (first :: second :: third :: rest) =
      decodeFrom (Char.ofNat (((first.toNat % 0x10) * 0x40 + payload second) * 0x40
        + payload third) :: before) (position + 3) rest := by
  rw [decodeFrom.eq_def]
  dsimp only
  rw [if_neg leads.rest.1, if_neg leads.rest.2, follows, Bool.not_true,
    if_neg Bool.false_ne_true,
    if_neg fun less => Nat.not_lt.2 long (UInt8.lt_iff_toNat_lt.1 less), continues, Bool.not_true,
    if_neg Bool.false_ne_true]
  exact if_pos (UInt8.lt_iff_toNat_lt.2 short)

theorem decodeFrom_four (before : List Char) (position : Nat) {first second third fourth : UInt8}
    (rest : List UInt8) (leads : Leads first) (long : 0xF0 ≤ first.toNat)
    (follows : mayFollow first second = true) (continues : isContinuation third = true)
    (ends : isContinuation fourth = true) :
    decodeFrom before position (first :: second :: third :: fourth :: rest) =
      decodeFrom (Char.ofNat ((((first.toNat % 0x08) * 0x40 + payload second) * 0x40
        + payload third) * 0x40 + payload fourth) :: before) (position + 4) rest := by
  have longer : 0xE0 ≤ first.toNat := Nat.le_trans (by decide) long
  rw [decodeFrom.eq_def]
  dsimp only
  rw [if_neg leads.rest.1, if_neg leads.rest.2, follows, Bool.not_true,
    if_neg Bool.false_ne_true,
    if_neg fun less => Nat.not_lt.2 longer (UInt8.lt_iff_toNat_lt.1 less), continues, Bool.not_true,
    if_neg Bool.false_ne_true,
    if_neg fun less => Nat.not_lt.2 long (UInt8.lt_iff_toNat_lt.1 less), ends, Bool.not_true,
    if_neg Bool.false_ne_true]

theorem toNat_ofNat {byte : Nat} (small : byte < 256) : (UInt8.ofNat byte).toNat = byte := by
  rw [UInt8.toNat_ofNat', Nat.mod_eq_of_lt small]

/-- A byte that continues a character, with the bits that it carries. -/
structure Carries (byte : UInt8) (bits : Nat) : Prop where
  toNat : byte.toNat = bits + 128
  continues : isContinuation byte = true
  payload : payload byte = bits

theorem carries_ofNat {bits : Nat} (small : bits < 0x40) :
    Carries (UInt8.ofNat (bits + 128)) bits := by
  have byte : (UInt8.ofNat (bits + 128)).toNat = bits + 128 := toNat_ofNat (by omega)
  refine ⟨byte, isContinuation_iff.2 (by omega), ?_⟩
  rw [Text.payload, byte]
  omega

/-- The bytes of a character are decoded to it, whatever stands behind them. -/
theorem decodeFrom_encoded (before : List Char) (position : Nat) (char : Char)
    (rest : List UInt8) :
    ∃ next, decodeFrom before position (String.utf8EncodeChar char ++ rest) =
      decodeFrom (char :: before) next rest := by
  have valid : char.val.toNat < 0xD800 ∨ 0xDFFF < char.val.toNat ∧ char.val.toNat < 0x110000 :=
    char.valid
  have whole : Char.ofNat char.val.toNat = char := Char.ofNat_toNat char
  rw [String.utf8EncodeChar]
  generalize char.val.toNat = code at valid whole ⊢
  have last : Carries _ (code % 64) := carries_ofNat (by omega)
  have middle : Carries _ (code / 64 % 64) := carries_ofNat (by omega)
  have upper : Carries _ (code / 4096 % 64) := carries_ofNat (by omega)
  split
  · have lead : (UInt8.ofNat code).toNat = code := toNat_ofNat (by omega)
    refine ⟨position + 1, ?_⟩
    rw [List.singleton_append, decodeFrom_one _ _ _ (by omega), lead, whole]
  · split
    · have lead : (UInt8.ofNat (code / 64 % 32 + 192)).toNat = code / 64 % 32 + 192 :=
        toNat_ofNat (by omega)
      have follows : mayFollow (UInt8.ofNat (code / 64 % 32 + 192)) _ = true :=
        mayFollow_of last.continues (by omega) (by omega) (by omega) (by omega)
      have same : (code / 64 % 32 + 192) % 0x20 * 0x40 + code % 64 = code := by omega
      refine ⟨position + 2, ?_⟩
      rw [List.cons_append, List.singleton_append,
        decodeFrom_two _ _ _ ⟨by omega, by omega⟩ (by omega) follows, lead, last.payload, same,
        whole]
    · split
      · have lead : (UInt8.ofNat (code / 4096 % 16 + 224)).toNat = code / 4096 % 16 + 224 :=
          toNat_ofNat (by omega)
        have second := middle.toNat
        -- The halves of surrogate pairs are no characters, and short codes have shorter forms.
        have follows : mayFollow (UInt8.ofNat (code / 4096 % 16 + 224)) _ = true :=
          mayFollow_of middle.continues (by omega) (by omega) (by omega) (by omega)
        have same : ((code / 4096 % 16 + 224) % 0x10 * 0x40 + code / 64 % 64) * 0x40 + code % 64 =
            code := by omega
        refine ⟨position + 3, ?_⟩
        rw [List.cons_append, List.cons_append, List.singleton_append,
          decodeFrom_three _ _ _ ⟨by omega, by omega⟩ (by omega) (by omega) follows last.continues,
          lead, middle.payload, last.payload, same, whole]
      · have lead : (UInt8.ofNat (code / 262144 % 8 + 240)).toNat = code / 262144 % 8 + 240 :=
          toNat_ofNat (by omega)
        have second := upper.toNat
        have follows : mayFollow (UInt8.ofNat (code / 262144 % 8 + 240)) _ = true :=
          mayFollow_of upper.continues (by omega) (by omega) (by omega) (by omega)
        have same : (((code / 262144 % 8 + 240) % 0x08 * 0x40 + code / 4096 % 64) * 0x40
            + code / 64 % 64) * 0x40 + code % 64 = code := by omega
        refine ⟨position + 4, ?_⟩
        rw [List.cons_append, List.cons_append, List.cons_append, List.singleton_append,
          decodeFrom_four _ _ _ ⟨by omega, by omega⟩ (by omega) follows middle.continues
            last.continues,
          lead, upper.payload, middle.payload, last.payload, same, whole]

theorem decodeFrom_encode (before : List Char) (position : Nat) (text : List Char) :
    decodeFrom before position (text.flatMap String.utf8EncodeChar) =
      .ok (before.reverse ++ text) := by
  induction text generalizing before position with
  | nil =>
    rw [List.flatMap_nil, decodeFrom, List.append_nil]
  | cons char rest ih =>
    obtain ⟨next, decoded⟩ := decodeFrom_encoded before position char
      (rest.flatMap String.utf8EncodeChar)
    rw [List.flatMap_cons, decoded, ih, List.reverse_cons, List.append_assoc]
    rfl

/-- The bytes of a text in UTF-8 are decoded to it. -/
theorem decode_toUTF8 (text : String) : decode text.toUTF8.data.toList = .ok text.toList := by
  have bytes : text.toUTF8.data.toList = text.toList.flatMap String.utf8EncodeChar := by
    rw [String.toUTF8, ← String.utf8Encode_toList, List.utf8Encode, List.data_toByteArray]
  rw [bytes, decode, decodeFrom_encode]
  rfl

/-! ### Joining line ends -/

theorem joinLineEnds_cons {char : Char} (plain : char ≠ '\r') (rest : List Char) :
    joinLineEnds (char :: rest) = char :: joinLineEnds rest := by
  rw [joinLineEnds.eq_def]
  split
  · next same => exact absurd (List.cons.inj same).1 plain
  · next same => exact absurd (List.cons.inj same).1 plain
  · next same => rw [(List.cons.inj same).1, (List.cons.inj same).2]
  · next same => cases same

/-- A carriage return becomes a line feed, together with the line feed behind it if there is one. -/
theorem joinLineEnds_return (rest : List Char) :
    ∃ tail, (rest = tail ∨ rest = '\n' :: tail) ∧
      joinLineEnds ('\r' :: rest) = '\n' :: joinLineEnds tail := by
  cases rest with
  | nil => exact ⟨[], .inl rfl, rfl⟩
  | cons second rest =>
    by_cases feed : second = '\n'
    · subst feed
      exact ⟨rest, .inr rfl, rfl⟩
    · refine ⟨second :: rest, .inl rfl, ?_⟩
      rw [joinLineEnds]
      rintro tail ⟨⟩
      exact feed rfl

theorem joinLineEnds_cons_ne_nil (char : Char) (rest : List Char) :
    ∃ first tail, joinLineEnds (char :: rest) = first :: tail := by
  by_cases ends : char = '\r'
  · subst ends
    obtain ⟨tail, -, joined⟩ := joinLineEnds_return rest
    exact ⟨'\n', _, joined⟩
  · exact ⟨char, _, joinLineEnds_cons ends rest⟩

theorem joinLineEnds_append {before : List Char} (plain : '\r' ∉ before) (rest : List Char) :
    joinLineEnds (before ++ rest) = before ++ joinLineEnds rest := by
  induction before with
  | nil => rfl
  | cons char before ih =>
    rw [List.mem_cons, not_or] at plain
    rw [List.cons_append, joinLineEnds_cons (Ne.symm plain.1), ih plain.2, List.cons_append]

/-- What begins with something else than a line feed did so before. -/
theorem joinLineEnds_eq_cons {text more : List Char} {char : Char} (plain : char ≠ '\n')
    (same : joinLineEnds text = char :: more) :
    ∃ rest, text = char :: rest ∧ joinLineEnds rest = more := by
  cases text with
  | nil => cases same
  | cons first rest =>
    by_cases carriage : first = '\r'
    · subst carriage
      obtain ⟨tail, -, joined⟩ := joinLineEnds_return rest
      exact absurd (List.cons.inj (joined.symm.trans same)).1.symm plain
    · rw [joinLineEnds_cons carriage] at same
      obtain ⟨rfl, behind⟩ := List.cons.inj same
      exact ⟨rest, rfl, behind⟩

/-- A word without line ends stands at the beginning of a text exactly if it did before. -/
theorem isPrefixOf_joinLineEnds {word : List Char} (feed : '\n' ∉ word) (carriage : '\r' ∉ word)
    (text : List Char) : word.isPrefixOf (joinLineEnds text) = word.isPrefixOf text := by
  induction word generalizing text with
  | nil => rfl
  | cons letter word ih =>
    rw [List.mem_cons, not_or] at feed carriage
    cases text with
    | nil => rfl
    | cons char rest =>
      by_cases ends : char = '\r'
      · subst ends
        obtain ⟨tail, -, joined⟩ := joinLineEnds_return rest
        rw [joined, List.isPrefixOf_cons_cons, List.isPrefixOf_cons_cons,
          beq_eq_false_iff_ne.2 (Ne.symm feed.1), beq_eq_false_iff_ne.2 (Ne.symm carriage.1)]
        rfl
      · rw [joinLineEnds_cons ends, List.isPrefixOf_cons_cons, List.isPrefixOf_cons_cons,
          ih feed.2 carriage.2]

/-- A way to cut a text in two that keeps carriage returns out of the first part, and that is not
disturbed when line ends are joined. -/
structure Steady (cut : List Char → List Char × List Char) : Prop where
  whole : ∀ text, (cut text).1 ++ (cut text).2 = text
  plain : ∀ text, '\r' ∉ (cut text).1
  joined : ∀ text, cut (joinLineEnds text) = ((cut text).1, joinLineEnds (cut text).2)

/-- A cut is steady if it leaves a text alone that begins with a line end, and does nothing to
carriage returns behind any other character. -/
theorem steady_of {cut : List Char → List Char × List Char} (nil : cut [] = ([], []))
    (feed : ∀ rest, cut ('\n' :: rest) = ([], '\n' :: rest))
    (carriage : ∀ rest, cut ('\r' :: rest) = ([], '\r' :: rest))
    (whole : ∀ char rest, (cut (char :: rest)).1 ++ (cut (char :: rest)).2 = char :: rest)
    (plain : ∀ char rest, char ≠ '\r' → '\r' ∉ (cut (char :: rest)).1)
    (joined : ∀ char rest, char ≠ '\r' → cut (char :: joinLineEnds rest) =
      ((cut (char :: rest)).1, joinLineEnds (cut (char :: rest)).2)) : Steady cut where
  whole text := by
    cases text with
    | nil => rw [nil, List.append_nil]
    | cons char rest => exact whole char rest
  plain text := by
    cases text with
    | nil =>
      rw [nil]
      exact List.not_mem_nil
    | cons char rest =>
      by_cases ends : char = '\r'
      · rw [ends, carriage]
        exact List.not_mem_nil
      · exact plain char rest ends
  joined text := by
    cases text with
    | nil =>
      show cut [] = _
      rw [nil]
      rfl
    | cons char rest =>
      by_cases ends : char = '\r'
      · subst ends
        obtain ⟨tail, -, same⟩ := joinLineEnds_return rest
        rw [same, carriage, feed, same]
      · rw [joinLineEnds_cons ends, joined char rest ends]

/-- To cut a text where its characters are no longer of a kind is steady, if line ends are not of
that kind. -/
theorem steady_span {kind : Char → Bool} (feed : kind '\n' = false) (carriage : kind '\r' = false) :
    Steady fun text => (text.takeWhile kind, text.dropWhile kind) where
  whole text := List.takeWhile_append_dropWhile
  plain text member := by
    have ofKind := List.all_eq_true.1 (List.all_takeWhile (p := kind) (l := text)) _ member
    rw [carriage] at ofKind
    cases ofKind
  joined text := by
    induction text with
    | nil => rfl
    | cons char rest ih =>
      by_cases ends : char = '\r'
      · subst ends
        obtain ⟨tail, -, joined⟩ := joinLineEnds_return rest
        simp only [joined, List.takeWhile_cons, List.dropWhile_cons, feed, carriage,
          Bool.false_eq_true, if_false]
      · obtain ⟨taken, dropped⟩ := Prod.mk.inj ih
        simp only [joinLineEnds_cons ends, List.takeWhile_cons, List.dropWhile_cons]
        cases kind char with
        | true => simp only [if_true, taken, dropped]
        | false => simp only [Bool.false_eq_true, if_false, joinLineEnds_cons ends]

/-- Behind a part without carriage returns a text is left as it is, with its line ends joined. -/
theorem drop_joinLineEnds {text : List Char} {count : Nat} (plain : '\r' ∉ text.take count) :
    (joinLineEnds text).drop count = joinLineEnds (text.drop count) := by
  have joined : joinLineEnds text = text.take count ++ joinLineEnds (text.drop count) := by
    rw [← joinLineEnds_append plain, List.take_append_drop]
  rw [joined, List.drop_append, List.length_take]
  by_cases short : count ≤ text.length
  · rw [Nat.min_eq_left short, Nat.sub_self, List.drop_of_length_le (List.length_take_le _ _),
      List.nil_append, List.drop_zero]
  · have behind : text.drop count = [] := List.drop_of_length_le (by omega)
    rw [behind, List.drop_of_length_le (List.length_take_le _ _), List.nil_append]
    exact List.drop_nil

end Parley.Text
