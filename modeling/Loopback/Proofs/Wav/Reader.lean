import Loopback.Proofs.Except
import Loopback.Wav.Bytes

/-! # Exact readers

    A reader that succeeds has taken some bytes off the front.  The readers of a header do not look
    at the bytes after these, and if only some of these are there, they run out of bytes: no other
    fault is found in a prefix of correct bytes.

    * `Takes` states this for a reader and the bytes it takes, `Short` is the part about too few
      bytes.
    * `Exact` says that every success of a reader is of this form, with a good value.
    * Sequences, choices and checks of exact readers are exact, so a reader is shown to be exact by
      following its definition.
-/

namespace Loopback

namespace Bytes

/-- Writing the number in some bytes, with as many bytes, gives them back. -/
theorem ofNumber_toNumber (bytes : Bytes) : ofNumber bytes.length bytes.toNumber = bytes := by
  induction bytes with
  | nil => rfl
  | cons b bytes ih =>
    have hlow : UInt8.ofNat (b.toNat + 256 * toNumber bytes) = b := by
      rw [← UInt8.toNat_inj, UInt8.toNat_ofNat', Nat.add_mul_mod_self_left]
      exact Nat.mod_eq_of_lt b.toNat_lt
    have hhigh : (b.toNat + 256 * toNumber bytes) / 256 = toNumber bytes := by
      have hlt : b.toNat < 256 := b.toNat_lt
      omega
    rw [List.length_cons, toNumber, ofNumber, hlow, hhigh, ih]

theorem toNumber_lt (bytes : Bytes) : bytes.toNumber < 256 ^ bytes.length := by
  rw [← ofNumber_toNumber bytes, toNumber_ofNumber, length_ofNumber]
  exact Nat.mod_lt _ (Nat.pow_pos (by decide))

/-- A prefix ends within the front, or after it. -/
theorem part_cases {cut front rest : Bytes} (h : cut <+: front ++ rest) :
    (cut <+: front ∧ cut.length < front.length) ∨ ∃ left, cut = front ++ left ∧ left <+: rest := by
  have hfront : front <+: front ++ rest := List.prefix_append ..
  by_cases hfew : cut.length < front.length
  · exact Or.inl ⟨List.prefix_of_prefix_length_le h hfront (Nat.le_of_lt hfew), hfew⟩
  · obtain ⟨left, rfl⟩ := List.prefix_of_prefix_length_le hfront h (Nat.le_of_not_lt hfew)
    exact Or.inr ⟨left, rfl, (List.prefix_append_right_inj front).mp h⟩

end Bytes

namespace Wav.Reader

/-! ### Bytes and numbers -/

theorem take_append {front : Bytes} {count : Nat} (h : front.length = count) (rest : Bytes) :
    take count (front ++ rest) = .ok (front, rest) := by
  subst h
  simp [take]

/-- A number is read back modulo what its bytes can hold. -/
theorem number_ofNumber_mod (width n : Nat) (rest : Bytes) :
    number width (Bytes.ofNumber width n ++ rest) = .ok (n % 256 ^ width, rest) := by
  rw [number, take_append (Bytes.length_ofNumber width n)]
  simp only [Bytes.toNumber_ofNumber]

theorem number_ofNumber {width n : Nat} (h : n < 256 ^ width) (rest : Bytes) :
    number width (Bytes.ofNumber width n ++ rest) = .ok (n, rest) := by
  rw [number_ofNumber_mod, Nat.mod_eq_of_lt h]

theorem take_of_short {bytes : Bytes} {count : Nat} (h : bytes.length < count) :
    take count bytes = .error .outOfBytes := by
  have hfew : (bytes.take count).length ≠ count := by
    rw [List.length_take]
    omega
  exact if_neg hfew

theorem take_eq_ok {bytes front rest : Bytes} {count : Nat} :
    take count bytes = .ok (front, rest) ↔ front.length = count ∧ bytes = front ++ rest := by
  constructor
  · intro h
    simp only [take] at h
    split at h
    · next hlength =>
      cases h
      exact ⟨hlength, (List.take_append_drop ..).symm⟩
    · cases h
  · rintro ⟨hlength, rfl⟩
    exact take_append hlength rest

theorem number_eq_ok {bytes rest : Bytes} {width n : Nat} :
    number width bytes = .ok (n, rest) ↔
      n < 256 ^ width ∧ bytes = Bytes.ofNumber width n ++ rest := by
  constructor
  · intro h
    unfold number at h
    split at h
    · next front remaining htake =>
      cases h
      obtain ⟨rfl, rfl⟩ := take_eq_ok.mp htake
      exact ⟨front.toNumber_lt, by rw [Bytes.ofNumber_toNumber]⟩
    · cases h
  · rintro ⟨hlt, rfl⟩
    exact number_ofNumber hlt rest

/-! ### What a reader takes -/

section

variable {α β : Type}

/-- If only some of the bytes are there, the reader runs out of them. -/
def Short (reader : Reader α) (front : Bytes) : Prop :=
  ∀ cut, cut <+: front → cut.length < front.length → reader cut = .error .outOfBytes

/-- The reader takes these bytes and returns the value, whatever comes after them. -/
structure Takes (reader : Reader α) (front : Bytes) (value : α) : Prop where
  reads : ∀ rest, reader (front ++ rest) = .ok (value, rest)
  short : reader.Short front

/-- Whenever the reader succeeds, it has taken some bytes and returned a good value. -/
def Exact (reader : Reader α) (Good : α → Prop) : Prop :=
  ∀ bytes value rest, reader bytes = .ok (value, rest) →
    Good value ∧ ∃ front, bytes = front ++ rest ∧ reader.Takes front value

variable {reader : Reader α} {next : α × Bytes → Except Fault (β × Bytes)} {front more : Bytes}
  {a : α} {b : β} {Good : α → Prop} {Fine : β → Prop}

/-- A reader that took everything takes the same bytes wherever they stand. -/
theorem Exact.takes (h : reader.Exact Good) (hread : reader front = .ok (a, [])) :
    Good a ∧ reader.Takes front a := by
  obtain ⟨hgood, taken, hbytes, htakes⟩ := h _ _ _ hread
  rw [List.append_nil] at hbytes
  exact ⟨hgood, hbytes ▸ htakes⟩

theorem Takes.good (h : reader.Takes front a) (hexact : reader.Exact Good) : Good a :=
  (hexact _ _ _ (h.reads [])).1

/-- A proper prefix for a sequence is one for its first reader, or else one for the second reader
    after it. -/
theorem Takes.short_bind (h : reader.Takes front a)
    (hnext : Short (fun rest => next (a, rest)) more) :
    Short (fun bytes => reader bytes >>= next) (front ++ more) := by
  intro cut hpart hlength
  rcases Bytes.part_cases hpart with ⟨hfront, hfew⟩ | ⟨rest, rfl, hrest⟩
  · simp only [h.short cut hfront hfew, bind, Except.bind]
  · rw [List.length_append, List.length_append] at hlength
    have hmissed : next (a, rest) = .error .outOfBytes := hnext rest hrest (by omega)
    simp only [h.reads rest, bind, Except.bind, hmissed]

theorem Takes.bind (h : reader.Takes front a) (hnext : Takes (fun rest => next (a, rest)) more b) :
    Takes (fun bytes => reader bytes >>= next) (front ++ more) b where
  reads := by
    intro rest
    simp only [List.append_assoc, h.reads, Bind.bind, Except.bind, hnext.reads]
  short := h.short_bind hnext.short

theorem takes_take {count : Nat} (h : front.length = count) : (take count).Takes front front where
  reads := take_append h
  short := by
    intro cut _ hlength
    exact take_of_short (by omega)

theorem takes_number {width n : Nat} (h : n < 256 ^ width) :
    (number width).Takes (Bytes.ofNumber width n) n where
  reads := number_ofNumber h
  short := by
    intro cut _ hlength
    rw [Bytes.length_ofNumber] at hlength
    simp only [number, take_of_short hlength]

/-! ### Exact readers -/

theorem exact_take (count : Nat) : (take count).Exact fun taken => taken.length = count := by
  intro bytes taken rest h
  obtain ⟨hlength, hbytes⟩ := take_eq_ok.mp h
  exact ⟨hlength, taken, hbytes, takes_take hlength⟩

theorem exact_number (width : Nat) : (number width).Exact fun n => n < 256 ^ width := by
  intro bytes n rest h
  obtain ⟨hlt, hbytes⟩ := number_eq_ok.mp h
  exact ⟨hlt, _, hbytes, takes_number hlt⟩

/-- Returning a value takes no bytes. -/
theorem exact_ok (h : Good a) : Exact (fun bytes => .ok (a, bytes)) Good := by
  intro bytes value rest heq
  cases heq
  exact ⟨h, [], rfl, fun _ => rfl, fun cut _ hlength => absurd hlength (Nat.not_lt_zero _)⟩

/-- A reader that always fails never takes anything. -/
theorem exact_error (fault : Fault) : Exact (fun _ => .error fault) Good := by
  intro bytes value rest heq
  cases heq

theorem Exact.ite {p : Prop} [Decidable p] {other : Reader α} (h : p → reader.Exact Good)
    (hother : ¬p → other.Exact Good) :
    Exact (fun bytes => if p then reader bytes else other bytes) Good := by
  by_cases hp : p
  · simpa only [hp, if_true] using h hp
  · simpa only [hp, if_false] using hother hp

/-- A check that looks at no bytes may come first. -/
theorem exact_check {check : Except Fault α} {rest : α → Reader β}
    (h : ∀ a, check = .ok a → (rest a).Exact Fine) :
    Exact (fun bytes => check >>= fun a => rest a bytes) Fine := by
  cases check with
  | error fault => exact exact_error fault
  | ok a => exact h a rfl

theorem Exact.bind (h : reader.Exact Good)
    (hnext : ∀ a, Good a → Exact (fun rest => next (a, rest)) Fine) :
    Exact (fun bytes => reader bytes >>= next) Fine := by
  intro bytes value rest heq
  obtain ⟨⟨a, remaining⟩, hread, hrest⟩ := Except.bind_eq_ok.mp heq
  obtain ⟨hgood, front, rfl, htakes⟩ := h _ _ _ hread
  obtain ⟨hfine, more, rfl, htakes'⟩ := hnext a hgood _ _ _ hrest
  exact ⟨hfine, front ++ more, (List.append_assoc ..).symm, htakes.bind htakes'⟩

end

end Wav.Reader

end Loopback
