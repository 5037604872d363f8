import Loopback.DevicePair
import Loopback.Proofs.Callback.Kept

/-! # The streams of a device pair

    A pair of devices holds both streams or none.  A start that succeeds leaves it with streams, one
    that fails with none, and a stop with none whether it fails or not.  Callbacks come only while
    there are streams, and they leave them there.
-/

namespace Loopback.DevicePair

/-- No stream is built before the first start. -/
theorem ring_connect {host : Host} {wantedInput wantedOutput : Option String}
    {notices : List Notice} {p : DevicePair}
    (h : connect host wantedInput wantedOutput = (notices, .ok p)) : p.ring = none := by
  unfold connect at h
  split at h
  · cases h
  · split at h
    · cases h
    · cases h
      rfl

/-! ### Steps of starting and stopping -/

variable (p : DevicePair)

@[simp] theorem ring_close (direction : Direction) : (p.close direction).ring = p.ring := rfl

@[simp] theorem ring_build (direction : Direction) : (p.build direction).1.ring = p.ring := by
  by_cases hformat : (!(p.device direction).format.streamable) = true
  · simp only [build, hformat, if_true]
  · simp only [build, hformat, Bool.false_eq_true, if_false]
    split <;> rfl

@[simp] theorem ring_play (direction : Direction) : (p.play direction).1.ring = p.ring := by
  unfold play
  split <;> rfl

/-! ### Starting and stopping -/

/-- A start from no streams leaves streams exactly if it succeeds: whatever a step has built is
    closed by the one that fails. -/
theorem ring_start (hnone : p.ring = none) : p.start.1.ring.isSome = p.start.2.isOk := by
  have hno : p.ring.isSome = false := by rw [hnone, Option.isSome_none]
  -- step by step: only the last of them puts streams in place
  rcases hbuild : p.build .input with ⟨p₁, _ | _⟩
  · have h₁ : p₁.ring = none := by rw [← hnone, ← p.ring_build .input, hbuild]
    simp only [start, hno, Bool.false_eq_true, if_false, hbuild, h₁]
    rfl
  have h₁ : p₁.ring = none := by rw [← hnone, ← p.ring_build .input, hbuild]
  rcases hbuild' : p₁.build .output with ⟨p₂, _ | _⟩
  · have h₂ : p₂.ring = none := by rw [← h₁, ← p₁.ring_build .output, hbuild']
    simp only [start, hno, Bool.false_eq_true, if_false, hbuild, hbuild', ring_close, h₂]
    rfl
  have h₂ : p₂.ring = none := by rw [← h₁, ← p₁.ring_build .output, hbuild']
  rcases hplay : p₂.play .input with ⟨p₃, _ | _⟩
  · have h₃ : p₃.ring = none := by rw [← h₂, ← p₂.ring_play .input, hplay]
    simp only [start, hno, Bool.false_eq_true, if_false, hbuild, hbuild', hplay, ring_close, h₃]
    rfl
  have h₃ : p₃.ring = none := by rw [← h₂, ← p₂.ring_play .input, hplay]
  rcases hplay' : p₃.play .output with ⟨p₄, _ | _⟩
  · have h₄ : p₄.ring = none := by rw [← h₃, ← p₃.ring_play .output, hplay']
    simp only [start, hno, Bool.false_eq_true, if_false, hbuild, hbuild', hplay, hplay',
      ring_close, h₄]
    rfl
  simp only [start, hno, Bool.false_eq_true, if_false, hbuild, hbuild', hplay, hplay']
  rfl

theorem ring_stop : p.stop.1.ring = none := by
  unfold stop
  split
  · next h => simpa using h
  · rfl

/-! ### Callbacks -/

section

variable {p : DevicePair} {P : Engine → Prop} {e : Engine}

/-- The input callback keeps the streams, and what callbacks keep of the engine. -/
theorem capture_kept (hP : Engine.KeptByCallbacks P) (h : P e) {data : DeviceBuffer}
    {p' : DevicePair} {e' : Engine} (hcapture : p.capture e data = some (p', e')) :
    P e' ∧ p'.ring.isSome = p.ring.isSome := by
  obtain ⟨ring, hring, heq⟩ := Option.map_eq_some_iff.mp hcapture
  cases heq
  rw [hring]
  exact ⟨captureBuffer_kept hP p.channelCounts.input e ring data h, rfl⟩

/-- The output callback does so too, whether or not it gets the lock. -/
theorem render_kept (hP : Engine.KeptByCallbacks P) (h : P e) {lock : EngineLock} {length : Nat}
    {p' : DevicePair} {e' : Engine} {buffer : DeviceBuffer}
    (hrender : p.render e lock length = some (p', e', buffer)) :
    P e' ∧ p'.ring.isSome = p.ring.isSome := by
  obtain ⟨ring, hring, heq⟩ := Option.map_eq_some_iff.mp hrender
  have hkept := renderBuffer_kept hP p.output.format p.channelCounts lock e ring length h
  rcases hcall : renderBuffer p.output.format p.channelCounts lock e ring length with
    ⟨engine, rest, filled⟩
  rw [hcall] at heq hkept
  cases heq
  rw [hring]
  exact ⟨hkept, rfl⟩

end

end Loopback.DevicePair
