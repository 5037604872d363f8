import Loopback.Clip

/-! # Playing a clip

    `Clip.play` asks for one frame after the other.  At the clip's end the cursor stays after the
    last frame until another frame is asked for; a looping clip starts over then.

    * Playing twice is playing once with the sum of the counts (`play_add`), also if the first part
      ends at the clip's end.
    * Counted from the start of the clip, frame `n` is frame `n % frameCount` of the clip, and after
      `n` frames the cursor is at `restAt n` (`play_restAt`).
-/

namespace Loopback.Clip

variable (c : Clip) (loop : Bool) (channels : Nat)

/-! ### One frame at a time -/

/-- The frames already played come before those that follow. -/
theorem playOnto_eq (count cursor : Nat) (played : Array Frame) :
    c.playOnto loop channels count cursor played
      = (played ++ (c.playOnto loop channels count cursor #[]).1,
          (c.playOnto loop channels count cursor #[]).2) := by
  induction count generalizing cursor played with
  | zero => simp [playOnto]
  | succ count ih =>
    simp only [playOnto]
    cases c.next? loop cursor with
    | none => simp
    | some k =>
      dsimp only
      rw [ih, ih _ (#[].push _)]
      simp

@[simp] theorem length_frameAt (k : Fin c.frameCount) :
    (c.frameAt k channels).length = channels := by
  rw [frameAt, List.length_map, List.length_range]

@[simp] theorem play_zero (cursor : Nat) : c.play loop channels 0 cursor = ([], cursor) := rfl

/-- If there is a next frame, it is played first, and the cursor moves past it. -/
theorem play_succ_of_some {cursor : Nat} {k : Fin c.frameCount}
    (h : c.next? loop cursor = some k) (count : Nat) :
    c.play loop channels (count + 1) cursor
      = (c.frameAt k channels :: (c.play loop channels count (k + 1)).1,
          (c.play loop channels count (k + 1)).2) := by
  simp only [play, playOnto, h]
  rw [playOnto_eq]
  simp

/-- Nothing is played while there is no next frame. -/
theorem play_of_none {cursor : Nat} (h : c.next? loop cursor = none) (count : Nat) :
    c.play loop channels count cursor = ([], cursor) := by
  cases count with
  | zero => rfl
  | succ count => simp [play, playOnto, h]

/-- No more is played than was asked for. -/
theorem length_play_le (count cursor : Nat) :
    (c.play loop channels count cursor).1.length ≤ count := by
  induction count generalizing cursor with
  | zero => simp
  | succ count ih =>
    cases h : c.next? loop cursor with
    | none => simp [play_of_none c loop channels h]
    | some k =>
      have hrest := ih (k + 1)
      simp only [play_succ_of_some c loop channels h, List.length_cons]
      omega

/-- Every frame played has as many samples as there are channels. -/
theorem length_of_mem_play {count cursor : Nat} {f : Frame}
    (hf : f ∈ (c.play loop channels count cursor).1) : f.length = channels := by
  induction count generalizing cursor with
  | zero => simp at hf
  | succ count ih =>
    cases h : c.next? loop cursor with
    | none => simp [play_of_none c loop channels h] at hf
    | some k =>
      rw [play_succ_of_some c loop channels h] at hf
      rcases List.mem_cons.mp hf with rfl | hf
      · exact c.length_frameAt channels k
      · exact ih hf

/-- If fewer frames are played than asked for, nothing more can be played from the cursor reached.
    -/
theorem next?_of_length_play_lt {count cursor : Nat}
    (hlt : (c.play loop channels count cursor).1.length < count) :
    c.next? loop (c.play loop channels count cursor).2 = none := by
  induction count generalizing cursor with
  | zero => simp at hlt
  | succ count ih =>
    cases h : c.next? loop cursor with
    | none => simpa [play_of_none c loop channels h] using h
    | some k =>
      rw [play_succ_of_some c loop channels h] at hlt ⊢
      exact ih (by simpa using hlt)

/-- A looping clip never runs out of frames. -/
theorem length_play_of_loop (count cursor : Nat) :
    (c.play true channels count cursor).1.length = count := by
  have hle := c.length_play_le true channels count cursor
  by_cases hlt : (c.play true channels count cursor).1.length < count
  · -- it would have to stop at a cursor with no next frame
    have hnone := c.next?_of_length_play_lt true channels hlt
    unfold next? at hnone
    split at hnone
    · simp at hnone
    · simp at hnone
  · omega

/-- A cursor within the clip stays within the clip, or is at its end. -/
theorem play_rest_le {cursor : Nat} (h : cursor ≤ c.frameCount) (count : Nat) :
    (c.play loop channels count cursor).2 ≤ c.frameCount := by
  induction count generalizing cursor with
  | zero => exact h
  | succ count ih =>
    cases hnext : c.next? loop cursor with
    | none => simpa [play_of_none c loop channels hnext] using h
    | some k =>
      rw [play_succ_of_some c loop channels hnext]
      exact ih k.isLt

/-- **Playing composes**: playing in two parts gives what playing in one gives. -/
theorem play_add (m n cursor : Nat) :
    c.play loop channels (m + n) cursor
      = ((c.play loop channels m cursor).1
            ++ (c.play loop channels n (c.play loop channels m cursor).2).1,
          (c.play loop channels n (c.play loop channels m cursor).2).2) := by
  induction m generalizing cursor with
  | zero => simp
  | succ m ih =>
    cases h : c.next? loop cursor with
    | none => simp [play_of_none c loop channels h]
    | some k =>
      rw [Nat.succ_add, play_succ_of_some c loop channels h,
        play_succ_of_some c loop channels h, ih]
      rfl

/-! ### Counting from the start of the clip -/

/-- The cursor after `n` frames from the start of the clip. -/
def restAt (n : Nat) : Nat :=
  if n = 0 then 0 else (n - 1) % c.frameCount + 1

/-- Frame `n` of the endless repetition of the clip. -/
def cycled (n : Nat) : Fin c.frameCount := ⟨n % c.frameCount, Nat.mod_lt _ c.frameCount_pos⟩

@[simp] theorem restAt_zero : c.restAt 0 = 0 := rfl

theorem restAt_succ (n : Nat) : c.restAt (n + 1) = n % c.frameCount + 1 := by
  simp [restAt]

/-- The next remainder, or zero if it reaches the divisor. -/
theorem succ_mod_frameCount (n : Nat) :
    (n + 1) % c.frameCount
      = if n % c.frameCount + 1 = c.frameCount then 0 else n % c.frameCount + 1 := by
  have hlt := Nat.mod_lt n c.frameCount_pos
  have hsplit : n + 1 = c.frameCount * (n / c.frameCount) + (n % c.frameCount + 1) := by
    have := Nat.div_add_mod n c.frameCount
    omega
  rw [hsplit, Nat.mul_add_mod]
  split
  · next heq => rw [heq, Nat.mod_self]
  · next hne => exact Nat.mod_eq_of_lt (by omega)

/-- After one or more whole repetitions the cursor is at the clip's end. -/
theorem restAt_of_dvd {n : Nat} (hpos : 0 < n) (hdvd : c.frameCount ∣ n) :
    c.restAt n = c.frameCount := by
  obtain ⟨m, rfl⟩ : ∃ m, n = m + 1 := ⟨n - 1, by omega⟩
  have hzero : (m + 1) % c.frameCount = 0 := Nat.mod_eq_zero_of_dvd hdvd
  rw [succ_mod_frameCount] at hzero
  rw [restAt_succ]
  split at hzero
  · assumption
  · omega

/-- Otherwise it points at the frame that is due. -/
theorem restAt_of_not_dvd {n : Nat} (h : ¬(0 < n ∧ c.frameCount ∣ n)) :
    c.restAt n = n % c.frameCount := by
  cases n with
  | zero => simp
  | succ n =>
    have hne : (n + 1) % c.frameCount ≠ 0 := fun hzero =>
      h ⟨Nat.succ_pos n, Nat.dvd_of_mod_eq_zero hzero⟩
    rw [restAt_succ]
    rw [succ_mod_frameCount] at hne ⊢
    split at hne
    · exact absurd rfl hne
    · next hlt => rw [if_neg hlt]

/-- The frame that is due after `n` frames.  A clip that does not loop has none at its end. -/
theorem next?_restAt (n : Nat) :
    c.next? loop (c.restAt n)
      = if loop = false ∧ 0 < n ∧ c.frameCount ∣ n then none else some (c.cycled n) := by
  by_cases hend : 0 < n ∧ c.frameCount ∣ n
  · -- at the end of the clip, where only a looping clip goes on
    have hrest := c.restAt_of_dvd hend.1 hend.2
    have hzero : n % c.frameCount = 0 := Nat.mod_eq_zero_of_dvd hend.2
    cases loop <;> simp [next?, hrest, hend, cycled, hzero]
  · -- inside the clip, where the loop mode does not matter
    have hlt : c.restAt n < c.frameCount := by
      rw [c.restAt_of_not_dvd hend]
      exact Nat.mod_lt _ c.frameCount_pos
    have hno : ¬(loop = false ∧ 0 < n ∧ c.frameCount ∣ n) := fun h => hend h.2
    rw [if_neg hno, next?, dif_pos hlt]
    simp only [c.restAt_of_not_dvd hend, cycled]

/-- How many of `asked` frames are played after `n` frames. -/
def due (n asked : Nat) : Nat :=
  if loop then asked else min asked (c.frameCount - c.restAt n)

theorem due_le (n asked : Nat) : c.due loop n asked ≤ asked := by
  unfold due
  split
  · exact Nat.le_refl _
  · exact Nat.min_le_left ..

/-- At the end of a clip that does not loop nothing is due. -/
theorem due_at_end {n : Nat} (h : 0 < n ∧ c.frameCount ∣ n) (asked : Nat) :
    c.due false n asked = 0 := by
  simp [due, c.restAt_of_dvd h.1 h.2]

/-- Otherwise a frame is due, and after it whatever is due one frame later. -/
theorem due_succ {n : Nat} (h : ¬(loop = false ∧ 0 < n ∧ c.frameCount ∣ n)) (asked : Nat) :
    c.due loop n (asked + 1) = c.due loop (n + 1) asked + 1 := by
  cases loop with
  | true => simp [due]
  | false =>
    have hrest : c.restAt n = n % c.frameCount :=
      c.restAt_of_not_dvd fun hend => h ⟨rfl, hend⟩
    have hlt := Nat.mod_lt n c.frameCount_pos
    simp only [due, Bool.false_eq_true, if_false, hrest, restAt_succ]
    omega

/-- Fewer frames than asked for are due only at the end of a clip that does not loop. -/
theorem end_of_due_lt {n asked : Nat} (hlt : c.due loop n asked < asked) :
    loop = false ∧ 0 < n + c.due loop n asked ∧ c.frameCount ∣ n + c.due loop n asked := by
  induction asked generalizing n with
  | zero => omega
  | succ asked ih =>
    by_cases hend : loop = false ∧ 0 < n ∧ c.frameCount ∣ n
    · obtain ⟨rfl, hend⟩ := hend
      rw [c.due_at_end hend]
      exact ⟨rfl, hend⟩
    · rw [c.due_succ loop hend] at hlt ⊢
      have hshift : n + (c.due loop (n + 1) asked + 1) = n + 1 + c.due loop (n + 1) asked := by
        omega
      rw [hshift]
      exact ih (by omega)

/-- **Playback from a rest position**: the frames that are due, each from its place in the endless
    repetition, and the cursor after them. -/
theorem play_restAt (n count : Nat) :
    c.play loop channels count (c.restAt n)
      = ((List.range (c.due loop n count)).map fun i => c.frameAt (c.cycled (n + i)) channels,
          c.restAt (n + c.due loop n count)) := by
  -- the rest position moves on with every frame, so it is general in the induction
  induction count generalizing n with
  | zero =>
    have hnone : c.due loop n 0 = 0 := Nat.le_zero.mp (c.due_le loop n 0)
    simp [hnone]
  | succ count ih =>
    have hnext := c.next?_restAt loop n
    by_cases hend : loop = false ∧ 0 < n ∧ c.frameCount ∣ n
    · rw [if_pos hend] at hnext
      obtain ⟨rfl, hend⟩ := hend
      simp [play_of_none c false channels hnext, c.due_at_end hend]
    · rw [if_neg hend] at hnext
      have hstep : (c.cycled n : Nat) + 1 = c.restAt (n + 1) := by rw [restAt_succ]; rfl
      rw [play_succ_of_some c loop channels hnext, hstep, ih, c.due_succ loop hend]
      have hshift : ∀ i, n + 1 + i = n + (i + 1) := by omega
      simp only [List.range_succ_eq_map, List.map_cons, List.map_map, hshift]
      rfl

end Loopback.Clip
