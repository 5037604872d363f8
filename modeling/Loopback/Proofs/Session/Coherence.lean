import Loopback.Proofs.DevicePair
import Loopback.Proofs.Engine.Coherence
import Loopback.Proofs.Session.Operations

/-! # Coherent sessions

    A session stores some facts that its engine stores, too, and over devices some that the pair of
    devices stores.  In every reachable state they agree, whatever operations were performed and
    whichever of them failed.

    * `Attempted` is a session with the formats of the latest start that it attempted, for which the
      recordings and the meters are prepared.
    * `Agrees` is the invariant of a session over any link, `Streaming` the one of a session over
      devices.
    * `Coherent` is what they imply for the visible state of a session.
-/

namespace Loopback

namespace Session

variable {σ : Type}

/-! ### The latest start -/

section

variable [Link σ]

/-- The formats of the latest attempted start, after an action.  A start was attempted if it
    succeeded or if its error came from the link. -/
def latestAfter (s : Session σ) (latest : Option (StreamFormat × StreamFormat)) :
    Action → Option (StreamFormat × StreamFormat)
  | .start now =>
    match (s.start now).result with
    | .ok () | .error (.error (.start _)) =>
      some (Link.outputFormat s.link, Link.inputFormat s.link)
    | .error _ => latest
  | .loadClip _ | .loadFile _ _ | .loopMode _ | .pump _ | .stop _ | .exportTo _ _ _ _ => latest

theorem latestAfter_of_refused {s : Session σ} (h : s.clip = none ∨ s.isRunning = true)
    (latest : Option (StreamFormat × StreamFormat)) (now : Nat) :
    s.latestAfter latest (.start now) = latest := by
  rw [latestAfter, s.start_of_refused h, refusal]
  cases s.clip.isNone <;> rfl

theorem latestAfter_of_not_asksLink (s : Session σ) {a : Action} (ha : a.asksLink = false)
    (latest : Option (StreamFormat × StreamFormat)) : s.latestAfter latest a = latest := by
  cases a with
  | start now => cases ha
  | _ => rfl

theorem latestAfter_of_admitted {s : Session σ} (hclip : s.clip ≠ none)
    (hstopped : s.isRunning = false) (latest : Option (StreamFormat × StreamFormat)) (now : Nat) :
    s.latestAfter latest (.start now)
      = some (Link.outputFormat s.link, Link.inputFormat s.link) := by
  rcases hlink : Link.start s.link with ⟨link, err | _⟩
  · rw [latestAfter, (start_of_error hclip hstopped hlink now).2]
  · rw [latestAfter, (start_of_success hclip hstopped hlink now).2]

end

/-- A session with the output and the input format of the latest start that it attempted. -/
structure Attempted (σ : Type) where
  session : Session σ
  latest : Option (StreamFormat × StreamFormat) := none

namespace Attempted

variable [Link σ]

def perform (t : Attempted σ) (a : Action) : Attempted σ :=
  { session := t.session.after a, latest := t.session.latestAfter t.latest a }

def run (t : Attempted σ) (actions : List Action) : Attempted σ := actions.foldl perform t

end Attempted

/-! ### The visible state -/

/-- What a session shows agrees with its engine, given the formats of the latest start that it
    attempted. -/
structure Coherent (latest : Option (StreamFormat × StreamFormat)) (s : Session σ) : Prop where
  /-- The session has a clip exactly if the engine has one, with the same counts. -/
  clip_eq :
    s.clip.map (fun info => (info.frameCount, info.channels, info.rate))
      = s.engine.clip.map fun clip => (clip.frameCount, clip.channels, clip.rate)
  clip_samples : ∀ clip, s.engine.clip = some clip →
    clip.samples.size = clip.frameCount * clip.channels ∧ 1 ≤ clip.frameCount ∧ 1 ≤ clip.channels
  started_of_running : s.status.running = true → s.status.started = true
  clip_of_running : s.status.running = true → s.clip.isSome = true
  /-- There are recordings and formats exactly if a start was attempted. -/
  recordings : s.engine.played.isSome = latest.isSome ∧ s.engine.recorded.isSome = latest.isSome
  formats : s.engine.outputFormat = latest.map (·.1) ∧ s.engine.inputFormat = latest.map (·.2)
  position_eq : s.status.position = s.engine.cursor
  /-- The position stays within the clip, and is zero without one. -/
  position_le : s.status.position ≤ s.status.clipFrames.getD 0
  peaks_eq : s.status.peaks = s.engine.meters.map (·.level)
  /-- There is a peak for each input channel of the latest start, and none before the first. -/
  length_peaks : s.status.peaks.length = (latest.map (·.2.channels)).getD 0

/-! ### The invariant -/

/-- The engine is coherent, and session and engine agree on the clip, without which the session does
    not run. -/
structure Agrees (latest : Option (StreamFormat × StreamFormat)) (s : Session σ) : Prop where
  engine : s.engine.Coherent latest
  clip_eq :
    s.clip.map (fun info => (info.frameCount, info.channels, info.rate))
      = s.engine.clip.map fun clip => (clip.frameCount, clip.channels, clip.rate)
  clip_of_running : s.isRunning = true → s.clip ≠ none

theorem agrees_opened (options : Options) (loopMode logTimings : Bool) (link : σ)
    (driver : Option OfflineDriver) :
    Agrees none (opened options loopMode logTimings link driver) where
  engine := (Engine.coherent_new options).setLoopMode loopMode
  clip_eq := rfl
  clip_of_running h := by cases h

theorem agrees_offline (options : Options) (loopMode logTimings : Bool) (link : OfflineLink) :
    Agrees none (offline options loopMode logTimings link) := by
  rw [offline_eq_opened]
  exact agrees_opened options loopMode logTimings link (some { link })

section

variable {latest : Option (StreamFormat × StreamFormat)} {s : Session σ}

/-- The session knows the length of the engine's clip. -/
theorem Agrees.clipFrames_eq (h : Agrees latest s) :
    s.clip.map (·.frameCount) = s.engine.clip.map (·.frameCount) := by
  have hframes := congrArg (Option.map (·.1)) h.clip_eq
  rwa [Option.map_map, Option.map_map] at hframes

/-- Before the first start the session shows no levels, and the engine has none. -/
theorem Agrees.peaks_eq (h : Agrees latest s) :
    s.status.peaks = s.engine.meters.map (·.level) := by
  show (if s.engine.monitor.started then s.engine.monitor.peaks.levels else []) = _
  rw [h.engine.started_eq, h.engine.levels_eq]
  cases latest with
  | none =>
    have hnone : s.engine.meters = [] := List.eq_nil_of_length_eq_zero h.engine.length_meters
    rw [hnone]
    rfl
  | some formats => rfl

/-- Callbacks preserve the invariant. -/
theorem Agrees.of_kept (h : Agrees latest s) {s' : Session σ} (hclip : s'.clip = s.clip)
    (hengine : s'.engine.Coherent latest) (hkept : s'.engine.options = s.engine.options
      ∧ s'.engine.clip = s.engine.clip ∧ s'.isRunning = s.isRunning) : Agrees latest s' where
  engine := hengine
  clip_eq := by rw [hclip, hkept.2.1, h.clip_eq]
  clip_of_running := by
    rw [hclip, hkept.2.2]
    exact h.clip_of_running

theorem Agrees.coherent (h : Agrees latest s) : Coherent latest s where
  clip_eq := h.clip_eq
  clip_samples clip _ := ⟨clip.size_eq, clip.frameCount_pos, clip.channels_pos⟩
  started_of_running hrunning := h.engine.started_eq.trans (h.engine.started_of_running hrunning)
  clip_of_running hrunning := Option.isSome_iff_ne_none.mpr (h.clip_of_running hrunning)
  recordings := ⟨h.engine.played_isSome, h.engine.recorded_isSome⟩
  formats := ⟨h.engine.outputFormat_eq, h.engine.inputFormat_eq⟩
  position_eq := h.engine.position_eq
  position_le := by
    show s.engine.monitor.position ≤ (s.clip.map (·.frameCount)).getD 0
    rw [h.engine.position_eq, h.clipFrames_eq]
    exact h.engine.cursor_le
  peaks_eq := h.peaks_eq
  length_peaks := by
    rw [h.peaks_eq, List.length_map]
    exact h.engine.length_meters

end

/-- Callbacks preserve the parts of the engine that the invariant mentions. -/
theorem keptByCallbacks (latest : Option (StreamFormat × StreamFormat)) (s : Session σ) :
    Engine.KeptByCallbacks fun e => e.Coherent latest ∧ e.options = s.engine.options
      ∧ e.clip = s.engine.clip ∧ e.monitor.running = s.isRunning :=
  (Engine.keptByCallbacks_coherent latest).and
    (Engine.keptByCallbacks_controls s.engine.options s.engine.clip s.isRunning)

/-! ### Operations over any link -/

section

variable {latest : Option (StreamFormat × StreamFormat)} {s : Session σ}

theorem Agrees.pump (h : Agrees latest s) (elapsed : Nat) :
    Agrees latest (s.pump elapsed).session := by
  rcases s.idle_or_driven with hidle | ⟨d, hdriver, hruns⟩
  · rw [pump_of_idle hidle]
    exact h
  · obtain ⟨⟨poisoned, heq⟩, -⟩ := pump_of_driven hdriver hruns elapsed
    obtain ⟨hengine, hkept⟩ :=
      d.run_kept (keptByCallbacks latest s) ⟨h.engine, rfl, rfl, rfl⟩ elapsed
    rw [heq]
    exact h.of_kept rfl hengine hkept

variable [Link σ]

theorem Agrees.install (h : Agrees latest s) (a : Audio) (source : Option String) :
    Agrees latest (s.install a source).session := by
  rcases s.install_cases a source with ⟨err, -, heq, -⟩ | ⟨engine, hload, heq, -⟩
  · rw [heq]
    exact h
  · rw [heq]
    refine ⟨h.engine.load hload, ?_, fun _ => by simp⟩
    obtain ⟨clip, hclip, rfl⟩ := Engine.load_of_ok hload
    obtain ⟨hframes, hchannels, hrate⟩ := Clip.counts_of_ofAudio hclip
    show some (a.frameCount, a.channels, a.rate) = some (clip.frameCount, clip.channels, clip.rate)
    rw [hframes, hchannels, hrate]

/-- A start that is attempted prepares the engine for the link's formats. -/
theorem Agrees.start (h : Agrees latest s) (now : Nat) :
    Agrees (s.latestAfter latest (.start now)) (s.start now).session := by
  rcases s.refused_or_admitted with hrefused | ⟨hclip, hstopped⟩
  · rw [latestAfter_of_refused hrefused, s.start_of_refused hrefused]
    exact h
  · -- the engine is prepared before the link is asked, and stays so if the link refuses
    have hready := s.engine.coherent_prepare (Link.outputFormat s.link) (Link.inputFormat s.link)
    rw [latestAfter_of_admitted hclip hstopped]
    rcases hlink : Link.start s.link with ⟨link, err | _⟩
    · rw [(start_of_error hclip hstopped hlink now).1]
      exact ⟨hready, h.clip_eq, fun _ => hclip⟩
    · rw [(start_of_success hclip hstopped hlink now).1]
      exact ⟨hready.setRunning fun _ => rfl, h.clip_eq, fun _ => hclip⟩

theorem Agrees.stop (h : Agrees latest s) (now : Nat) : Agrees latest (s.stop now).session := by
  cases hruns : s.isRunning with
  | false =>
    rw [s.stop_of_stopped hruns]
    exact h
  | true =>
    rw [(s.stop_of_running hruns now).1]
    refine ⟨h.engine.setRunning ?_, h.clip_eq, ?_⟩
    · intro hrunning
      cases hrunning
    · intro hrunning
      cases hrunning

/-- Every action preserves the invariant. -/
theorem Agrees.after (h : Agrees latest s) (a : Action) :
    Agrees (s.latestAfter latest a) (s.after a) := by
  cases hasks : a.asksLink with
  | true =>
    cases a with
    | start now => exact h.start now
    | stop now => exact h.stop now
    | _ => cases hasks
  | false =>
    rw [s.latestAfter_of_not_asksLink hasks]
    exact after_kept h h.install
      (fun on => ⟨h.engine.setLoopMode on, h.clip_eq, h.clip_of_running⟩) h.pump
      ⟨h.engine, h.clip_eq, h.clip_of_running⟩ hasks

theorem Agrees.run {t : Attempted σ} (h : Agrees t.latest t.session) (actions : List Action) :
    Agrees (t.run actions).latest (t.run actions).session := by
  induction actions generalizing t with
  | nil => exact h
  | cons a actions ih => exact ih (h.after a)

end

/-! ### Sessions over devices -/

inductive DeviceAction where
  /-- An operation of the session. -/
  | control (a : Action)
  /-- The input stream brings samples. -/
  | capture (data : DeviceBuffer)
  /-- The output stream asks for samples. -/
  | render (lock : EngineLock) (length : Nat)
  /-- The devices change: from now on other operations fail. -/
  | hostChanges (host : Host)

/-- The session after an action; callbacks come only while there are streams. -/
def afterDevice (s : Session DevicePair) : DeviceAction → Session DevicePair
  | .control a => s.after a
  | .capture data =>
    match s.link.capture s.engine data with
    | none => s
    | some (link, engine) => { s with link, engine }
  | .render lock length =>
    match s.link.render s.engine lock length with
    | none => s
    | some (link, engine, _) => { s with link, engine }
  | .hostChanges host => { s with link := { s.link with host } }

namespace Attempted

def performDevice (t : Attempted DevicePair) (a : DeviceAction) : Attempted DevicePair :=
  { session := t.session.afterDevice a
    latest :=
      match a with
      | .control a => t.session.latestAfter t.latest a
      | .capture _ | .render _ _ | .hostChanges _ => t.latest }

def runDevice (t : Attempted DevicePair) (actions : List DeviceAction) : Attempted DevicePair :=
  actions.foldl performDevice t

end Attempted

/-- A session over devices agrees with its engine, and runs exactly while the pair of devices holds
    its streams. -/
structure Streaming (latest : Option (StreamFormat × StreamFormat)) (s : Session DevicePair) :
    Prop where
  agrees : Agrees latest s
  running_eq : s.isRunning = s.link.ring.isSome

/-- A new session over devices holds no streams. -/
theorem streaming_overDevices {options : Options} {loopMode logTimings : Bool} {host : Host}
    {wantedInput wantedOutput : Option String} {notices : List Notice} {s : Session DevicePair}
    (h : overDevices options loopMode logTimings host wantedInput wantedOutput = (notices, .ok s)) :
    Streaming none s := by
  unfold overDevices at h
  rcases hconnect : DevicePair.connect host wantedInput wantedOutput with ⟨notes, err | link⟩
  · rw [hconnect] at h
    cases h
  · rw [hconnect] at h
    cases h
    refine ⟨agrees_opened options loopMode logTimings link none, ?_⟩
    show false = link.ring.isSome
    rw [DevicePair.ring_connect hconnect]
    rfl

section

variable {latest : Option (StreamFormat × StreamFormat)} {s : Session DevicePair}

/-- A start or a stop changes the streams accordingly, also if it fails. -/
theorem Streaming.after (h : Streaming latest s) (a : Action) :
    Streaming (s.latestAfter latest a) (s.after a) := by
  refine ⟨h.agrees.after a, ?_⟩
  cases hasks : a.asksLink with
  | true =>
    cases a with
    | start now =>
      show (s.start now).session.isRunning = (s.start now).session.link.ring.isSome
      rcases s.refused_or_admitted with hrefused | ⟨hclip, hstopped⟩
      · rw [s.start_of_refused hrefused]
        exact h.running_eq
      · have hnone : s.link.ring = none := by
          have hnot := h.running_eq.symm.trans hstopped
          simpa using hnot
        have hring := s.link.ring_start hnone
        rcases hlink : Link.start s.link with ⟨link, err | _⟩
        · -- the streams built so far are closed again
          rw [show s.link.start = (link, .error err) from hlink] at hring
          rw [(start_of_error hclip hstopped hlink now).1]
          exact hstopped.trans hring.symm
        · rw [show s.link.start = (link, .ok ()) from hlink] at hring
          rw [(start_of_success hclip hstopped hlink now).1]
          exact hring.symm
    | stop now =>
      show (s.stop now).session.isRunning = (s.stop now).session.link.ring.isSome
      cases hruns : s.isRunning with
      | false =>
        rw [s.stop_of_stopped hruns]
        exact h.running_eq
      | true =>
        rw [(s.stop_of_running hruns now).1]
        -- the streams are gone even if one of them failed to pause
        show false = s.link.stop.1.ring.isSome
        rw [s.link.ring_stop]
        rfl
    | _ => cases hasks
  | false =>
    obtain ⟨hlink, hrunning⟩ := after_of_not_asksLink (s := s) hasks
    rw [hlink, hrunning, h.running_eq]

/-- Every action preserves the invariant of a session over devices. -/
theorem Streaming.perform {t : Attempted DevicePair} (h : Streaming t.latest t.session)
    (a : DeviceAction) : Streaming (t.performDevice a).latest (t.performDevice a).session := by
  have hcallbacks := keptByCallbacks t.latest t.session
  cases a with
  | control a => exact h.after a
  | capture data =>
    show Streaming t.latest (t.session.afterDevice (.capture data))
    unfold afterDevice
    dsimp only
    -- without streams there is no callback
    cases hcapture : t.session.link.capture t.session.engine data with
    | none => exact h
    | some result =>
      obtain ⟨⟨hengine, hkept⟩, hring⟩ :=
        DevicePair.capture_kept hcallbacks ⟨h.agrees.engine, rfl, rfl, rfl⟩ hcapture
      exact ⟨h.agrees.of_kept rfl hengine hkept,
        hkept.2.2.trans (h.running_eq.trans hring.symm)⟩
  | render lock length =>
    show Streaming t.latest (t.session.afterDevice (.render lock length))
    unfold afterDevice
    dsimp only
    cases hrender : t.session.link.render t.session.engine lock length with
    | none => exact h
    | some result =>
      obtain ⟨⟨hengine, hkept⟩, hring⟩ :=
        DevicePair.render_kept hcallbacks ⟨h.agrees.engine, rfl, rfl, rfl⟩ hrender
      exact ⟨h.agrees.of_kept rfl hengine hkept,
        hkept.2.2.trans (h.running_eq.trans hring.symm)⟩
  | hostChanges host =>
    exact ⟨⟨h.agrees.engine, h.agrees.clip_eq, h.agrees.clip_of_running⟩, h.running_eq⟩

theorem Streaming.run {t : Attempted DevicePair} (h : Streaming t.latest t.session)
    (actions : List DeviceAction) :
    Streaming (t.runDevice actions).latest (t.runDevice actions).session := by
  induction actions generalizing t with
  | nil => exact h
  | cons a actions ih => exact ih (h.perform a)

end

/-- **Sessions stay coherent.** After any sequence of operations, whichever of them failed, an
    offline session is coherent.  So is a session over devices, with callbacks and changes of the
    devices in between; and it runs exactly while the pair of devices holds its streams. -/
theorem sessions_stay_coherent :
    (∀ (options : Options) (loopMode logTimings : Bool) (link : OfflineLink)
        (actions : List Action),
        let t := ({ session := offline options loopMode logTimings link } :
          Attempted OfflineLink).run actions
        Coherent t.latest t.session)
      ∧ ∀ (options : Options) (loopMode logTimings : Bool) (host : Host)
          (wantedInput wantedOutput : Option String) (notices : List Notice)
          (s : Session DevicePair) (actions : List DeviceAction),
          overDevices options loopMode logTimings host wantedInput wantedOutput
            = (notices, .ok s) →
          let t := ({ session := s } : Attempted DevicePair).runDevice actions
          Coherent t.latest t.session
            ∧ (t.session.status.running = true ↔ t.session.link.ring.isSome = true) := by
  constructor
  · intro options loopMode logTimings link actions
    have h := Agrees.run (t := { session := offline options loopMode logTimings link })
      (agrees_offline options loopMode logTimings link) actions
    exact h.coherent
  · intro options loopMode logTimings host wantedInput wantedOutput notices s actions hopen
    have h := Streaming.run (t := { session := s }) (streaming_overDevices hopen) actions
    exact ⟨h.agrees.coherent, by rw [← h.running_eq]; rfl⟩

/-- One device, with one channel in and two out. -/
def headset : Host :=
  { devices :=
      [{ name := "headset"
         input := some { rate := 8, channels := 1, format := .f32 }
         output := some { rate := 8, channels := 2, format := .i16 } }]
    defaultInput := some 0
    defaultOutput := some 0 }

/-- A clip of two frames is loaded, the session is started, and each stream calls back once. -/
def startedOnHeadset : List DeviceAction :=
  [.control (.loadClip { samples := #[.one, .negOne], frameCount := 2, channels := 1, rate := 8 }),
    .control (.start 0),
    .capture (.f32 [.half]),
    .render .free 2]

/-- The session then runs; it has played one of two frames and heard one frame. -/
theorem coherent_on_headset :
    ∃ notices s, overDevices {} true false headset none none = (notices, .ok s)
      ∧ let t := ({ session := s } : Attempted DevicePair).runDevice startedOnHeadset
        Coherent t.latest t.session
          ∧ t.latest = some ({ rate := 8, channels := 2 }, { rate := 8, channels := 1 })
          ∧ t.session.link.ring.isSome = true
          ∧ t.session.status.position = 1
          ∧ t.session.status.peaks = [.half] := by
  refine ⟨_, _, rfl, ?_⟩
  obtain ⟨hcoherent, hrunning⟩ :=
    sessions_stay_coherent.2 {} true false headset none none _ _ startedOnHeadset rfl
  exact ⟨hcoherent, rfl, hrunning.mp (by decide +kernel), by decide +kernel, by decide +kernel⟩

end Session

end Loopback
