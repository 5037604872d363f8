import Loopback.Frame

/-! # Frames and the samples they are cut from

    `Frame.cut` and `List.flatten` go both ways between interleaved samples and frames of one width.

    * Cutting the samples of whole frames gives the frames back (`cut_flatten`), and the samples of
      the frames that were cut are the ones they were cut from (`flatten_cut`).
    * Sample `j` of frame `i` stands at `i * width + j` (`getElem?_flatten`), and the first samples
      are those of the first frames (`flatten_take`).
    * `cut_eq_map` and `fit_eq_map` say frame by frame and sample by sample what cutting and fitting
      give.
-/

namespace Loopback.Frame

variable {width : Nat}

/-! ### Frames of one width -/

theorem length_flatten {frames : List Frame} (h : ∀ f ∈ frames, f.length = width) :
    frames.flatten.length = frames.length * width := by
  induction frames with
  | nil => simp
  | cons f frames ih =>
    have hf : f.length = width := h f (by simp)
    have hrest := ih fun g hg => h g (by simp [hg])
    rw [List.flatten_cons, List.length_append, hf, hrest, List.length_cons, Nat.succ_mul]
    omega

/-- Sample `j` of frame `i` stands at `i * width + j`. -/
theorem getElem?_flatten {frames : List Frame} (h : ∀ f ∈ frames, f.length = width)
    {i j : Nat} (hi : i < frames.length) (hj : j < width) :
    frames.flatten[i * width + j]? = frames[i][j]? := by
  induction frames generalizing i with
  | nil => simp at hi
  | cons f frames ih =>
    have hf : f.length = width := h f (by simp)
    rw [List.flatten_cons]
    cases i with
    | zero =>
      rw [List.getElem?_append_left (by omega)]
      simp
    | succ i =>
      -- the index is after the first frame
      rw [List.getElem?_append_right (by rw [Nat.succ_mul]; omega)]
      have hindex : (i + 1) * width + j - f.length = i * width + j := by
        rw [Nat.succ_mul]
        omega
      rw [hindex, ih (fun g hg => h g (by simp [hg])) (by simpa using hi)]
      simp

/-- The samples of the first frames are the first samples. -/
theorem flatten_take {frames : List Frame} (h : ∀ f ∈ frames, f.length = width) (n : Nat) :
    (frames.take n).flatten = frames.flatten.take (n * width) := by
  induction frames generalizing n with
  | nil => simp
  | cons f frames ih =>
    have hf : f.length = width := h f (by simp)
    cases n with
    | zero => simp
    | succ n =>
      rw [List.take_succ_cons, List.flatten_cons, ih fun g hg => h g (by simp [hg]),
        List.flatten_cons, Nat.succ_mul, Nat.add_comm, ← hf, List.take_length_add_append]

/-! ### Cutting -/

theorem available_mul_le (width : Nat) (samples : List Sample) :
    available width samples * width ≤ samples.length :=
  Nat.div_mul_le_self ..

/-- The frames that are cut do not have more samples than the list. -/
theorem min_available_mul_le (width count : Nat) (samples : List Sample) :
    min count (available width samples) * width ≤ samples.length :=
  Nat.le_trans (Nat.mul_le_mul_right _ (Nat.min_le_right ..)) (available_mul_le ..)

/-- The frames of a whole front and of what follows it add up. -/
theorem available_append (hpos : 0 < width) {front : List Sample} (hwhole : width ∣ front.length)
    (rest : List Sample) :
    available width (front ++ rest) = available width front + available width rest := by
  obtain ⟨m, hm⟩ := hwhole
  rw [available, available, available, List.length_append, hm, Nat.mul_add_div hpos,
    Nat.mul_div_cancel_left _ hpos]

/-- Frames cut from enough samples are of the width asked for. -/
theorem length_of_mem_cut {count : Nat} {samples : List Sample}
    (hlen : count * width ≤ samples.length) {f : Frame} (hf : f ∈ cut width count samples) :
    f.length = width := by
  induction count generalizing samples with
  | zero => simp at hf
  | succ count ih =>
    rw [Nat.succ_mul] at hlen
    rw [cut_succ] at hf
    rcases List.mem_cons.mp hf with rfl | hf
    · rw [List.length_take]
      omega
    · exact ih (by rw [List.length_drop]; omega) hf

/-- The first frames that are cut are the ones cut when fewer are asked for. -/
theorem take_cut (count n : Nat) (samples : List Sample) :
    (cut width count samples).take n = cut width (min n count) samples := by
  induction count generalizing n samples with
  | zero => simp
  | succ count ih =>
    cases n with
    | zero => simp
    | succ n => rw [cut_succ, List.take_succ_cons, ih, Nat.succ_min_succ, cut_succ]

/-- Cutting whole frames gives them back, whatever follows them. -/
theorem cut_flatten {frames : List Frame} (h : ∀ f ∈ frames, f.length = width)
    (rest : List Sample) : cut width frames.length (frames.flatten ++ rest) = frames := by
  induction frames with
  | nil => simp
  | cons f frames ih =>
    have hf : f.length = width := h f (by simp)
    rw [List.length_cons, cut_succ, List.flatten_cons, List.append_assoc,
      List.take_left' hf, List.drop_left' hf, ih fun g hg => h g (by simp [hg])]

/-- The samples of the frames that are cut are the first ones. -/
theorem flatten_cut {count : Nat} {samples : List Sample}
    (hlen : count * width ≤ samples.length) :
    (cut width count samples).flatten = samples.take (count * width) := by
  induction count generalizing samples with
  | zero => simp
  | succ count ih =>
    rw [Nat.succ_mul] at hlen
    rw [cut_succ, List.flatten_cons, ih (by rw [List.length_drop]; omega), Nat.succ_mul,
      Nat.add_comm, List.take_add]

/-- Cutting a whole front and what follows it can be done one after the other. -/
theorem cut_append {m : Nat} {front : List Sample} (hlen : front.length = m * width) (n : Nat)
    (rest : List Sample) :
    cut width (m + n) (front ++ rest) = cut width m front ++ cut width n rest := by
  induction m generalizing front with
  | zero =>
    have hnil : front = [] := List.length_eq_zero_iff.mp (by omega)
    rw [hnil, Nat.zero_add]
    rfl
  | succ m ih =>
    rw [Nat.succ_mul] at hlen
    have hle : width ≤ front.length := by omega
    have hdrop : (front.drop width).length = m * width := by
      rw [List.length_drop]
      omega
    rw [Nat.succ_add, cut_succ, cut_succ, List.take_append_of_le_length hle,
      List.drop_append_of_le_length hle, ih hdrop, List.cons_append]

/-- Frame `i` is the run of samples that begins at `i * width`. -/
theorem cut_eq_map (width count : Nat) (samples : List Sample) :
    cut width count samples
      = (List.range count).map fun i => (samples.drop (i * width)).take width := by
  induction count generalizing samples with
  | zero => rfl
  | succ count ih =>
    have hrest : ∀ i, ((samples.drop width).drop (i * width)).take width
        = (samples.drop ((i + 1) * width)).take width := by
      intro i
      rw [List.drop_drop, Nat.succ_mul, Nat.add_comm]
    rw [cut_succ, ih, List.range_succ_eq_map, List.map_cons, List.map_map, Nat.zero_mul,
      List.drop_zero]
    exact congrArg _ (List.map_congr_left fun i _ => hrest i)

/-- A fitted frame has its own samples on the channels that it has, and silence on the others. -/
theorem fit_eq_map (width : Nat) (f : Frame) :
    fit width f = (List.range width).map fun channel => f.getD channel Sample.zero := by
  apply List.ext_getElem?
  intro channel
  rw [fit, List.getElem?_append, List.length_take, List.getElem?_take, List.getElem?_replicate,
    List.getElem?_map]
  by_cases hinside : channel < width
  · rw [List.getElem?_range hinside, Option.map_some, List.getD_eq_getElem?_getD]
    by_cases hown : channel < f.length
    · have hfront : channel < min width f.length := by omega
      simp [hinside, hown, hfront]
    · have hbeyond : ¬channel < min width f.length := by omega
      have hpad : channel - min width f.length < width - f.length := by omega
      simp [hown, hbeyond, hpad]
  · have hbeyond : ¬channel < min width f.length := by omega
    have hnone : ¬channel - min width f.length < width - f.length := by omega
    simp [hinside, hbeyond, hnone]

/-- Frames of the width they are fitted to stay as they are. -/
theorem map_fit_of_length {frames : List Frame} (h : ∀ f ∈ frames, f.length = width) :
    frames.map (fit width) = frames := by
  induction frames with
  | nil => rfl
  | cons f frames ih =>
    rw [List.map_cons, fit_of_length (h f (by simp)), ih fun g hg => h g (by simp [hg])]

/-! ### Silence -/

@[simp] theorem length_silence (count : Nat) : (silence count).length = count := by
  simp [silence]

theorem silence_add (m n : Nat) : silence (m + n) = silence m ++ silence n := by
  rw [silence, silence, silence, List.replicate_append_replicate]

theorem getElem?_silence {i count : Nat} (hi : i < count) :
    (silence count)[i]? = some Sample.zero := by
  simp [silence, hi]

end Loopback.Frame
