import Loopback.Frame

/-! # Operations that can fault

    The engine is modelled on lists and on numbers of any size.  A real callback works on slices of
    memory and on numbers of 64 bits, where an index or a result may be out of range.  The
    operations here return a `Fault` in that case.

    * Each operation has one lemma: when it does not fault, and what it returns then.
    * In these lemmas the memory is split into the parts before, in and after a slice
      (`slice_append`, `copy_append`), which avoids arithmetic on indices.
-/

namespace Loopback

inductive Fault where
  /-- An index or a bound of a slice is outside of the memory. -/
  | outOfRange
  /-- A slice is overwritten with more or fewer samples than it has. -/
  | lengthMismatch
  /-- A number takes more than 64 bits. -/
  | overflow
  /-- A difference is negative. -/
  | underflow
  /-- Something is divided by zero. -/
  | zeroDivisor
  /-- A loop takes more rounds than it may. -/
  | tooManyRounds
deriving DecidableEq, Repr, Inhabited

namespace Guarded

/-! ### Numbers -/

/-- A number, if it fits into 64 bits. -/
def word (n : Nat) : Except Fault Nat := if n < 2 ^ 64 then .ok n else .error .overflow

def add (m n : Nat) : Except Fault Nat := word (m + n)

def mul (m n : Nat) : Except Fault Nat := word (m * n)

def sub (m n : Nat) : Except Fault Nat := if n ≤ m then .ok (m - n) else .error .underflow

def div (m n : Nat) : Except Fault Nat := if n = 0 then .error .zeroDivisor else .ok (m / n)

def mod (m n : Nat) : Except Fault Nat := if n = 0 then .error .zeroDivisor else .ok (m % n)

section

variable {m n : Nat}

theorem add_of_lt (h : m + n < 2 ^ 64) : add m n = .ok (m + n) := if_pos h

theorem mul_of_lt (h : m * n < 2 ^ 64) : mul m n = .ok (m * n) := if_pos h

theorem sub_of_le (h : n ≤ m) : sub m n = .ok (m - n) := if_pos h

theorem div_of_pos (h : 0 < n) : div m n = .ok (m / n) := if_neg (Nat.ne_of_gt h)

theorem mod_of_pos (h : 0 < n) : mod m n = .ok (m % n) := if_neg (Nat.ne_of_gt h)

end

/-! ### Memory -/

def get (memory : List Sample) (index : Nat) : Except Fault Sample :=
  match memory[index]? with
  | some s => .ok s
  | none => .error .outOfRange

def slice (memory : List Sample) (start stop : Nat) : Except Fault (List Sample) :=
  if start ≤ stop ∧ stop ≤ memory.length then .ok ((memory.drop start).take (stop - start))
  else .error .outOfRange

/-- Overwrites the samples between two bounds with as many others. -/
def copy (memory : List Sample) (start stop : Nat) (data : List Sample) :
    Except Fault (List Sample) := do
  let old ← slice memory start stop
  if old.length = data.length then .ok (memory.take start ++ data ++ memory.drop stop)
  else .error .lengthMismatch

/-- Silences the samples from an index on. -/
def silenceFrom (memory : List Sample) (start : Nat) : Except Fault (List Sample) := do
  let old ← slice memory start memory.length
  copy memory start memory.length (Frame.silence old.length)

/-- Cuts memory into frames; an incomplete frame at the end is left out. -/
def frames (width : Nat) (memory : List Sample) : Except Fault (List Frame) := do
  let count ← div memory.length width
  .ok (Frame.cut width count memory)

section

variable {front middle : List Sample} {start stop : Nat}

theorem get_of_lt {memory : List Sample} {index : Nat} (h : index < memory.length) :
    get memory index = .ok memory[index] := by
  rw [get, List.getElem?_eq_getElem h]

theorem slice_append (rest : List Sample) (hstart : start = front.length)
    (hstop : stop = start + middle.length) :
    slice (front ++ (middle ++ rest)) start stop = .ok middle := by
  have hbounds : start ≤ stop ∧ stop ≤ (front ++ (middle ++ rest)).length := by
    simp only [List.length_append]
    omega
  have hlength : stop - start = middle.length := by omega
  rw [slice, if_pos hbounds, hlength, hstart, List.drop_left, List.take_left]

/-- The front of a memory. -/
theorem slice_take {memory : List Sample} (h : stop ≤ memory.length) :
    slice memory 0 stop = .ok (memory.take stop) := by
  rw [slice, if_pos ⟨Nat.zero_le _, h⟩, List.drop_zero, Nat.sub_zero]

/-- What comes from an index on. -/
theorem slice_drop {memory : List Sample} (h : start ≤ memory.length) :
    slice memory start memory.length = .ok (memory.drop start) := by
  have hall : (memory.drop start).take (memory.length - start) = memory.drop start :=
    List.take_of_length_le (Nat.le_of_eq List.length_drop)
  rw [slice, if_pos ⟨h, Nat.le_refl _⟩, hall]

theorem copy_append (data rest : List Sample) (hstart : start = front.length)
    (hstop : stop = start + middle.length) (hlength : middle.length = data.length) :
    copy (front ++ (middle ++ rest)) start stop data = .ok (front ++ (data ++ rest)) := by
  have hdrop : (front ++ (middle ++ rest)).drop stop = rest := by
    rw [hstop, hstart, ← List.drop_drop, List.drop_left, List.drop_left]
  have htake : (front ++ (middle ++ rest)).take start = front := by rw [hstart, List.take_left]
  simp only [copy, bind, Except.bind, slice_append rest hstart hstop, hlength, if_true, hdrop,
    htake, List.append_assoc]

theorem silenceFrom_append (rest : List Sample) (hstart : start = front.length) :
    silenceFrom (front ++ rest) start = .ok (front ++ Frame.silence rest.length) := by
  have hstop : (front ++ rest).length = start + rest.length := by
    rw [List.length_append, hstart]
  have hslice := slice_append [] hstart hstop
  have hcopy := copy_append (Frame.silence rest.length) [] hstart hstop
    List.length_replicate.symm
  simp only [List.append_nil] at hslice hcopy
  simp only [silenceFrom, bind, Except.bind, hslice, hcopy]

theorem frames_of_pos {width : Nat} (h : 0 < width) (memory : List Sample) :
    frames width memory = .ok (Frame.cut width (memory.length / width) memory) := by
  simp only [frames, bind, Except.bind, div_of_pos h]

end

end Guarded

end Loopback
