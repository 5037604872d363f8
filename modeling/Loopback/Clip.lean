import Loopback.Frame

/-! # Clips

    `Audio` is interleaved audio as someone supplies it, with whatever counts they claim.  `Clip` is
    audio that can be played: it has at least one frame and one channel, and exactly the samples
    that its counts promise, so every position that `Clip.frameAt` reads exists.
-/

namespace Loopback

/-- Interleaved audio with the counts its supplier claims. -/
structure Audio where
  samples : Array Sample
  frameCount : Nat
  channels : Nat
  rate : Nat
deriving DecidableEq, Repr, Inhabited

/-- Why audio cannot be made a clip. -/
inductive LoadError where
  /-- There are no samples at all. -/
  | missingData
  /-- No frames are claimed. -/
  | zeroFrames
  /-- No channels are claimed. -/
  | zeroChannels
  /-- Fewer samples than claimed. -/
  | shortData (expected actual : Nat)
  /-- The claimed number of samples is not a 64-bit number. -/
  | tooLarge (frames channels : Nat)
deriving DecidableEq, Repr, Inhabited

namespace LoadError

def message : LoadError → String
  | missingData => "no sample data supplied"
  | zeroFrames => "frame count must be positive"
  | zeroChannels => "channel count must be positive"
  | shortData expected actual => s!"expected {expected} samples, got {actual}"
  | tooLarge frames channels => s!"{frames} frames of {channels} channels do not fit in memory"

/-- The status number that callers get for any error. -/
def statusCode (_ : LoadError) : Int := -1

end LoadError

def loadOk : Int := 0

/-- Audio that can be played. -/
structure Clip where
  samples : Array Sample
  frameCount : Nat
  channels : Nat
  rate : Nat
  frameCount_pos : 0 < frameCount
  channels_pos : 0 < channels
  size_eq : samples.size = frameCount * channels
deriving DecidableEq, Repr

namespace Clip

/-- Accepts audio that has what it claims; surplus samples are left out. -/
def ofAudio (a : Audio) : Except LoadError Clip :=
  if a.samples.size = 0 then .error .missingData
  else if hf : a.frameCount = 0 then .error .zeroFrames
  else if hc : a.channels = 0 then .error .zeroChannels
  else if 2 ^ 64 ≤ a.frameCount * a.channels then .error (.tooLarge a.frameCount a.channels)
  else if hs : a.samples.size < a.frameCount * a.channels then
    .error (.shortData (a.frameCount * a.channels) a.samples.size)
  else
    .ok
      -- surplus samples are left out
      { samples := a.samples.extract 0 (a.frameCount * a.channels)
        frameCount := a.frameCount
        channels := a.channels
        rate := a.rate
        frameCount_pos := Nat.pos_of_ne_zero hf
        channels_pos := Nat.pos_of_ne_zero hc
        size_eq := by simp; omega }

/-- Every channel of every frame lies among the samples. -/
theorem index_lt (c : Clip) {k : Nat} (hk : k < c.frameCount) (ch : Nat) :
    k * c.channels + ch % c.channels < c.samples.size := by
  have hch : ch % c.channels < c.channels := Nat.mod_lt _ c.channels_pos
  have hstep : (k + 1) * c.channels ≤ c.frameCount * c.channels := Nat.mul_le_mul_right _ hk
  rw [Nat.succ_mul] at hstep
  rw [c.size_eq]
  omega

/-- What an output channel plays at frame `k`.  Output channels beyond the clip's own repeat them
    from the first one on. -/
def sampleAt (c : Clip) (k : Fin c.frameCount) (ch : Nat) : Sample :=
  have := c.index_lt k.isLt ch
  c.samples[k * c.channels + ch % c.channels]

/-- Frame `k` for the given number of output channels. -/
def frameAt (c : Clip) (k : Fin c.frameCount) (channels : Nat) : Frame :=
  (List.range channels).map (c.sampleAt k)

/-- The frame to play at a cursor position.  At its end a looping clip starts over. -/
def next? (c : Clip) (loop : Bool) (cursor : Nat) : Option (Fin c.frameCount) :=
  if h : cursor < c.frameCount then some ⟨cursor, h⟩
  else if loop then some ⟨0, c.frameCount_pos⟩
  else none

/-- Plays up to `count` frames from the cursor and appends them to those already played; also gives
    the cursor after the last one. -/
def playOnto (c : Clip) (loop : Bool) (channels : Nat) :
    Nat → Nat → Array Frame → Array Frame × Nat
  | 0, cursor, played => (played, cursor)
  | count + 1, cursor, played =>
    match c.next? loop cursor with
    | some k => c.playOnto loop channels count (k + 1) (played.push (c.frameAt k channels))
    | none => (played, cursor)

/-- Plays up to `count` frames from the cursor; also gives the cursor afterwards. -/
def play (c : Clip) (loop : Bool) (channels count cursor : Nat) : List Frame × Nat :=
  let (played, cursor) := c.playOnto loop channels count cursor #[]
  (played.toList, cursor)

end Clip

end Loopback
