import Mathlib.Data.List.Basic
import GrantProbe.Http.Encode

/-!
# What percent-encoding keeps

A part of an address stands for the same bytes before and after it is encoded. A text stands for its own
bytes if it holds no escape, which is a percent sign with two hexadecimal digits behind it, and for fewer if
it holds one.

* `utf8Bytes_ofList`, `utf8Bytes_injective`: the bytes of a text, character by character;
* `beginsEscape`, `hasEscape`: escapes; `decodeInduction`: induction along the escapes of a text;
* `percentDecode_percentEncode`: encoding for a path and decoding;
* `percentDecode_of_hasEscape_eq_false`, `length_percentDecode_le`: what an escape takes away.
-/

namespace GrantProbe

/-! ## The bytes of a text -/

theorem byteArray_toList (b : ByteArray) : b.toList = b.data.toList := by
  have hloop (i : Nat) (read : List UInt8) :
      ByteArray.toList.loop b i read = read.reverse ++ b.data.toList.drop i := by
    fun_induction ByteArray.toList.loop b i read with
    | case1 i read hlt ih =>
      have hget : b.get! i = b.data.toList[i] := by
        simp [ByteArray.get!, getElem!_pos, hlt]
      rw [ih, List.reverse_cons, List.append_assoc, List.singleton_append, hget,
        ← List.drop_eq_getElem_cons]
    | case2 i read hge =>
      have hall : b.data.toList.length ≤ i := Nat.le_of_not_lt hge
      rw [List.drop_eq_nil_of_le hall, List.append_nil]
  exact hloop 0 []

theorem utf8Bytes_ofList (cs : List Char) :
    utf8Bytes (String.ofList cs) = cs.flatMap String.utf8EncodeChar := by
  rw [utf8Bytes, String.toUTF8_eq_toByteArray, String.toByteArray_ofList, byteArray_toList]
  exact List.toList_data_toByteArray

theorem utf8Bytes_injective : Function.Injective utf8Bytes := by
  intro s t h
  rw [utf8Bytes, utf8Bytes, byteArray_toList, byteArray_toList] at h
  exact String.toByteArray_inj.mp (ByteArray.ext (Array.toList_inj.mp h))

namespace Http

/-- The bytes of the characters of a text. -/
def bytesOf (cs : List Char) : Bytes := utf8Bytes (String.ofList cs)

theorem bytesOf_injective : Function.Injective bytesOf := fun _ _ h =>
  String.ofList_injective (utf8Bytes_injective h)

theorem charBytes_eq (c : Char) : charBytes c = String.utf8EncodeChar c := by
  have hone : String.singleton c = String.ofList [c] := rfl
  rw [charBytes, hone, utf8Bytes_ofList, List.flatMap_singleton]

theorem charBytes_ne_nil (c : Char) : charBytes c ≠ [] := by
  rw [charBytes_eq]
  exact String.utf8EncodeChar_ne_nil

@[simp] theorem bytesOf_nil : bytesOf [] = [] := utf8Bytes_ofList []

@[simp] theorem bytesOf_cons (c : Char) (cs : List Char) :
    bytesOf (c :: cs) = charBytes c ++ bytesOf cs := by
  rw [bytesOf, bytesOf, utf8Bytes_ofList, utf8Bytes_ofList, List.flatMap_cons, charBytes_eq]

/-! ## Escapes -/

/-- Two hexadecimal digits stand in front. -/
def beginsEscape : List Char → Bool
  | a :: b :: _ => (hexValue? a).isSome && (hexValue? b).isSome
  | _ => false

/-- **Some percent sign has two hexadecimal digits behind it.** -/
def hasEscape : List Char → Bool
  | [] => false
  | c :: rest => (c == '%' && beginsEscape rest) || hasEscape rest

theorem hexValue?_percent : hexValue? '%' = none := rfl

theorem exists_of_beginsEscape {cs : List Char} (h : beginsEscape cs = true) :
    ∃ a b m n rest, cs = a :: b :: rest ∧ hexValue? a = some m ∧ hexValue? b = some n := by
  match cs with
  | [] => cases h
  | [_] => cases h
  | a :: b :: rest =>
    obtain ⟨ha, hb⟩ := (Bool.and_eq_true _ _).mp h
    obtain ⟨m, hm⟩ := Option.isSome_iff_exists.mp ha
    obtain ⟨n, hn⟩ := Option.isSome_iff_exists.mp hb
    exact ⟨a, b, m, n, rest, rfl, hm, hn⟩

/-- **Induction along escapes:** a text is empty, or begins with an escape, or with a character that
stands for itself. -/
theorem decodeInduction {P : List Char → Prop} (nil : P [])
    (plain : ∀ c rest, (c == '%' && beginsEscape rest) = false → P rest → P (c :: rest))
    (escape : ∀ a b m n rest, hexValue? a = some m → hexValue? b = some n → P rest →
      P ('%' :: a :: b :: rest)) (cs : List Char) : P cs := by
  induction hlength : cs.length using Nat.strongRecOn generalizing cs with
  | _ length ih =>
    subst hlength
    cases cs with
    | nil => exact nil
    | cons c rest =>
      rcases hescape : c == '%' && beginsEscape rest with _ | _
      · exact plain c rest hescape (ih _ (Nat.lt_succ_self _) rest rfl)
      · obtain ⟨hc, hbegins⟩ := (Bool.and_eq_true _ _).mp hescape
        obtain ⟨a, b, m, n, more, rfl, ha, hb⟩ := exists_of_beginsEscape hbegins
        obtain rfl := beq_iff_eq.mp hc
        exact escape a b m n more ha hb (ih _ (by simp only [List.length_cons]; omega) more rfl)

theorem percentDecode_escape {a b : Char} {m n : Nat} (ha : hexValue? a = some m)
    (hb : hexValue? b = some n) (rest : List Char) :
    percentDecode ('%' :: a :: b :: rest) = UInt8.ofNat (16 * m + n) :: percentDecode rest := by
  rw [percentDecode, ha, hb]

theorem percentDecode_plain {c : Char} {rest : List Char}
    (h : (c == '%' && beginsEscape rest) = false) :
    percentDecode (c :: rest) = charBytes c ++ percentDecode rest := by
  by_cases hc : c = '%'
  · subst hc
    match rest with
    | [] => rfl
    | [_] => rfl
    | a :: b :: more =>
      rw [percentDecode]
      simp only [beginsEscape, beq_self_eq_true, Bool.true_and] at h
      rcases ha : hexValue? a with _ | m
      · rfl
      · rcases hb : hexValue? b with _ | n
        · rfl
        · simp [ha, hb] at h
  · rw [percentDecode]
    exact fun a b more heq _ => hc heq

/-! ## Decoding what is encoded -/

/-- A path holds the bytes of the character in place of it. -/
def isEncoded (c : Char) : Bool := c.toNat < 0x20 || 0x7E < c.toNat || encodedInPath c

theorem percentEncode_of_kept {c : Char} (hc : isEncoded c = false) (cs : List Char) :
    percentEncode encodedInPath (c :: cs) = c :: percentEncode encodedInPath cs := by
  unfold isEncoded at hc
  rw [percentEncode, List.flatMap_cons, hc]
  rfl

theorem percentEncode_of_encoded {c : Char} (hc : isEncoded c = true) (cs : List Char) :
    percentEncode encodedInPath (c :: cs) =
      (charBytes c).flatMap percentByte ++ percentEncode encodedInPath cs := by
  unfold isEncoded at hc
  rw [percentEncode, List.flatMap_cons, hc]
  rfl

theorem isEncoded_of_hexValue {c : Char} {n : Nat} (h : hexValue? c = some n) :
    isEncoded c = false := by
  have hrange : 0x30 ≤ c.toNat ∧ c.toNat ≤ 0x39 ∨ 0x41 ≤ c.toNat ∧ c.toNat ≤ 0x46 ∨
      0x61 ≤ c.toNat ∧ c.toNat ≤ 0x66 := by
    simp only [hexValue?] at h
    split_ifs at h <;> tauto
  have hplain : encodedInPath c = false := by
    rw [← Bool.not_eq_true]
    intro hencoded
    simp only [encodedInPath, encodedInFragment, Bool.or_eq_true, List.contains_iff_mem,
      List.mem_cons, List.not_mem_nil, or_false] at hencoded
    rcases hencoded with (rfl | rfl | rfl | rfl | rfl) | rfl | rfl | rfl | rfl <;> cases h
  simp only [isEncoded, hplain, Bool.or_false, Bool.or_eq_false_iff, decide_eq_false_iff_not]
  omega

theorem hexValue?_of_isEncoded {c : Char} (h : isEncoded c = true) : hexValue? c = none := by
  rcases hvalue : hexValue? c with _ | n
  · rfl
  · rw [isEncoded_of_hexValue hvalue] at h
    cases h

theorem exists_percentEncode_eq_cons {c : Char} (hc : isEncoded c = true) (cs : List Char) :
    ∃ rest, percentEncode encodedInPath (c :: cs) = '%' :: rest := by
  obtain ⟨b, more, hb⟩ := List.exists_cons_of_ne_nil (charBytes_ne_nil c)
  exact ⟨_, by rw [percentEncode_of_encoded hc, hb, List.flatMap_cons]; rfl⟩

theorem beginsEscape_of_left {a : Char} (ha : hexValue? a = none) (rest : List Char) :
    beginsEscape (a :: rest) = false := by
  cases rest <;> simp [beginsEscape, ha]

theorem beginsEscape_of_right {b : Char} (hb : hexValue? b = none) (a : Char) (rest : List Char) :
    beginsEscape (a :: b :: rest) = false := by
  simp [beginsEscape, hb]

/-- Encoding makes no escape of what was none. -/
theorem beginsEscape_percentEncode (cs : List Char) :
    beginsEscape (percentEncode encodedInPath cs) = beginsEscape cs := by
  match cs with
  | [] => rfl
  | a :: rest =>
    rcases ha : isEncoded a with _ | _
    · rw [percentEncode_of_kept ha]
      match rest with
      | [] => rfl
      | b :: more =>
        rcases hb : isEncoded b with _ | _
        · rw [percentEncode_of_kept hb]
          rfl
        · obtain ⟨tail, htail⟩ := exists_percentEncode_eq_cons hb more
          rw [htail, beginsEscape_of_right hexValue?_percent,
            beginsEscape_of_right (hexValue?_of_isEncoded hb)]
    · obtain ⟨tail, htail⟩ := exists_percentEncode_eq_cons ha rest
      rw [htail, beginsEscape_of_left hexValue?_percent,
        beginsEscape_of_left (hexValue?_of_isEncoded ha)]

theorem hexValue?_upperHexDigit (n : Nat) : hexValue? (upperHexDigit n) = some (n % 16) := by
  have hall : ∀ d < 16, hexValue? (Nat.digitChar d).toUpper = some d := by decide
  exact hall _ (Nat.mod_lt _ (by decide))

theorem percentDecode_percentByte (b : UInt8) (rest : List Char) :
    percentDecode (percentByte b ++ rest) = b :: percentDecode rest := by
  have hbyte : b.toNat < 256 := b.toNat_lt
  have hvalue : UInt8.ofNat (16 * (b.toNat / 16 % 16) + b.toNat % 16) = b := by
    have hsum : 16 * (b.toNat / 16 % 16) + b.toNat % 16 = b.toNat := by omega
    rw [hsum, UInt8.ofNat_toNat]
  have hdecode := percentDecode_escape (hexValue?_upperHexDigit (b.toNat / 16))
    (hexValue?_upperHexDigit b.toNat) rest
  rw [hvalue] at hdecode
  exact hdecode

theorem percentDecode_flatMap_percentByte (bytes : Bytes) (rest : List Char) :
    percentDecode (bytes.flatMap percentByte ++ rest) = bytes ++ percentDecode rest := by
  induction bytes with
  | nil => rfl
  | cons b more ih =>
    rw [List.flatMap_cons, List.append_assoc, percentDecode_percentByte, ih, List.cons_append]

/-- **Encoding keeps what a text stands for.** The induction is along its escapes. -/
theorem percentDecode_percentEncode (cs : List Char) :
    percentDecode (percentEncode encodedInPath cs) = percentDecode cs := by
  induction cs using decodeInduction with
  | nil => rfl
  | plain c rest hplain ih =>
    rw [percentDecode_plain hplain, ← ih]
    rcases hc : isEncoded c with _ | _
    · rw [percentEncode_of_kept hc]
      refine percentDecode_plain ?_
      rw [beginsEscape_percentEncode]
      exact hplain
    · rw [percentEncode_of_encoded hc]
      exact percentDecode_flatMap_percentByte ..
  | escape a b m n rest ha hb ih =>
    rw [percentEncode_of_kept (by decide), percentEncode_of_kept (isEncoded_of_hexValue ha),
      percentEncode_of_kept (isEncoded_of_hexValue hb), percentDecode_escape ha hb, ih,
      percentDecode_escape ha hb]

/-! ## What an escape takes away -/

theorem percentDecode_of_hasEscape_eq_false {cs : List Char} (h : hasEscape cs = false) :
    percentDecode cs = bytesOf cs := by
  induction cs with
  | nil => rw [bytesOf_nil, percentDecode]
  | cons c rest ih =>
    obtain ⟨hplain, hrest⟩ := (Bool.or_eq_false_iff.mp h : _ ∧ _)
    rw [percentDecode_plain hplain, ih hrest, bytesOf_cons]

/-- **A text stands for no more bytes than it has,** and for fewer if it holds an escape. -/
theorem length_percentDecode_le (cs : List Char) :
    (percentDecode cs).length ≤ (bytesOf cs).length ∧
      (hasEscape cs = true → (percentDecode cs).length < (bytesOf cs).length) := by
  induction cs using decodeInduction with
  | nil => exact ⟨Nat.le_of_eq (by rw [bytesOf_nil, percentDecode]), nofun⟩
  | plain c rest hplain ih =>
    rw [percentDecode_plain hplain, bytesOf_cons, List.length_append, List.length_append, hasEscape,
      hplain, Bool.false_or]
    exact ⟨Nat.add_le_add_left ih.1 _, fun hrest => Nat.add_lt_add_left (ih.2 hrest) _⟩
  | escape a b m n rest ha hb ih =>
    have hone (c : Char) : 0 < (charBytes c).length := List.length_pos_of_ne_nil (charBytes_ne_nil c)
    have hpercent := hone '%'
    have hfirst := hone a
    have hsecond := hone b
    rw [percentDecode_escape ha hb]
    simp only [bytesOf_cons, List.length_append, List.length_cons]
    omega

theorem percentDecode_ne_nil {cs : List Char} (h : cs ≠ []) : percentDecode cs ≠ [] := by
  induction cs using decodeInduction with
  | nil => exact absurd rfl h
  | plain c rest hplain =>
    rw [percentDecode_plain hplain]
    exact List.append_ne_nil_of_left_ne_nil (charBytes_ne_nil c) _
  | escape a b m n rest ha hb =>
    rw [percentDecode_escape ha hb]
    exact List.cons_ne_nil _ _

end Http

end GrantProbe
