import Loopback.Proofs.Session.Run
import Loopback.Proofs.Wav.RoundTrip

/-! # Exported recordings

    A session exports what it played and heard.  After any run that has ended, an exported file
    reads back as the frames of the tape for which the recording had room, in the format of their
    direction.

    * An export does not change the session (`Keeps.exportTo_eq`), so exports may be made in any
      order and number.
    * `recording_of_keeps` relates a recording to the tape, `exportTo_of_usable` gives the file that
      is written for it, and `exports_what_was_played_and_heard` reads that file back.
-/

namespace Loopback

/-- The frames of one direction. -/
def Tape.side (t : Tape) : RecordingKind → List Frame
  | .played => t.played
  | .recorded => t.heard

/-- The format of one direction. -/
def OfflineLink.side (l : OfflineLink) : RecordingKind → StreamFormat
  | .played => l.output
  | .recorded => l.input

/-- A file can be created at a path after its directory: the missing directories can be created, and
    the path then leads to a name in a directory that is not a directory's own. -/
def FileTree.Usable (files : FileTree) (dir path : String) : Prop :=
  ∃ made start above place name,
    files.createDirs dir = (made, .ok ()) ∧ made.Opens path start above place name

namespace Session

/-- Writing a recording to a usable directory succeeds. -/
theorem exportTo_of_usable {σ : Type} {s : Session σ} {kind : RecordingKind} {r : Recording}
    {format : StreamFormat} (hstopped : s.isRunning = false)
    (hrecording : s.recording? kind = some (r, format)) (hrate : format.rate ≠ 0)
    (hchannels : r.channels ≤ 65535) {files : FileTree} {dir : String} {now : Nat}
    (husable : files.Usable dir (exportPath dir kind now)) :
    let content := (Wav.encode format.rate r.channels r.samples).toByteArray
    (s.exportTo files kind dir now).2.result
        = .ok { path := exportPath dir kind now, bytes := content.size }
      ∧ (s.exportTo files kind dir now).1.read (exportPath dir kind now) = .ok content := by
  obtain ⟨made, start, above, place, name, hmade, hopens⟩ := husable
  have hbegun := (FileTree.write_eq_ok_iff made _ (exportPath dir kind now) ByteArray.empty).mpr
    ⟨start, above, place, name, hopens, rfl⟩
  obtain ⟨written, hwritten, hread⟩ := Wav.write_eq_file hbegun r hrate hchannels
  constructor
  · simp only [exportTo, hstopped, hrecording, hmade, hwritten, Bool.false_eq_true, if_false]
  · simp only [exportTo, hstopped, hrecording, hmade, hwritten, Bool.false_eq_true, if_false]
    exact hread

section

variable {link : OfflineLink} {seconds : Nat} {tape : Tape} {s : Session OfflineLink}

/-- After a start there is a recording for each direction, in the format of that direction, and it
    holds the first frames of that side of the tape. -/
theorem recording_of_keeps (h : s.engine.Keeps link.output link.input seconds tape)
    (kind : RecordingKind) :
    ∃ r, s.recording? kind = some (r, link.side kind)
      ∧ r.Holds (link.side kind).channels (seconds * (link.side kind).rate) (tape.side kind)
      ∧ ∀ f ∈ tape.side kind, f.length = (link.side kind).channels := by
  cases kind with
  | played =>
    obtain ⟨r, hr, hholds⟩ := h.played
    refine ⟨r, ?_, hholds, h.width_played⟩
    simp only [recording?, hr, h.outputFormat_eq, Option.bind_some, Option.map_some]
    rfl
  | recorded =>
    obtain ⟨r, hr, hholds⟩ := h.recorded
    refine ⟨r, ?_, hholds, h.width_heard⟩
    simp only [recording?, hr, h.inputFormat_eq, Option.bind_some, Option.map_some]
    rfl

/-- If there are frames on the tape, the engine has been started. -/
theorem Keeps.engine_of_side (h : Keeps link seconds tape s) {kind : RecordingKind}
    (hside : tape.side kind ≠ []) : s.engine.Keeps link.output link.input seconds tape := by
  rcases h.shows with ⟨-, -, -, rfl⟩ | hkeeps
  · cases kind with
    | played => exact absurd rfl hside
    | recorded => exact absurd rfl hside
  · exact hkeeps

/-- So it has if there is a recording. -/
theorem Keeps.engine_of_recording (h : Keeps link seconds tape s) {kind : RecordingKind}
    {r : Recording} {format : StreamFormat} (hrecording : s.recording? kind = some (r, format)) :
    s.engine.Keeps link.output link.input seconds tape := by
  rcases h.shows with ⟨hplayed, hrecorded, -, -⟩ | hkeeps
  · cases kind with
    | played => simp [recording?, hplayed] at hrecording
    | recorded => simp [recording?, hrecorded] at hrecording
  · exact hkeeps

/-- A recording is paired with the format of its own direction. -/
theorem Keeps.format_of_recording (h : Keeps link seconds tape s) {kind : RecordingKind}
    {r : Recording} {format : StreamFormat} (hrecording : s.recording? kind = some (r, format)) :
    format = link.side kind := by
  obtain ⟨r', hr', -⟩ := recording_of_keeps (h.engine_of_recording hrecording) kind
  rw [hrecording] at hr'
  exact congrArg Prod.snd (Option.some.inj hr')

/-- An export does not change the session, however it ends. -/
theorem Keeps.exportTo_eq (h : Keeps link seconds tape s)
    (hrates : ∀ kind, (link.side kind).rate ≠ 0) (files : FileTree) (kind : RecordingKind)
    (dir : String) (now : Nat) :
    (s.exportTo files kind dir now).2.session = s := by
  rcases s.exportTo_session files kind dir now with heq | ⟨-, r, format, hrecording, hzero⟩
  · exact heq
  · rw [h.format_of_recording hrecording] at hzero
    exact absurd hzero (hrates kind)

end

/-- **Exported files are what was played and heard.** Take an offline session over a link whose
    formats fit into a header, after any sequence of operations, and let it be stopped.  Consider
    one side of the tape, as far as its recording had room.  If it is not empty and fits into a
    file, an export to a usable directory succeeds, and the file reads back as exactly these frames,
    bit for bit, with the rate and the channels of their direction.  No export of either kind
    changes the session, and the content of the file depends neither on its path nor on the time, so
    exporting again, or in another order, gives the same content. -/
theorem exports_what_was_played_and_heard (options : Options) (loopMode logTimings : Bool)
    (link : OfflineLink) (hout : Wav.Fits link.output.rate link.output.channels)
    (hin : Wav.Fits link.input.rate link.input.channels) (actions : List Action)
    (kind : RecordingKind) :
    let t := Taped.run { session := offline options loopMode logTimings link } actions
    let format := link.side kind
    let frames := (t.tape.side kind).take (options.maxRecordSeconds * format.rate)
    t.session.isRunning = false →
    frames ≠ [] →
    60 + 4 * (frames.length * format.channels) < 2 ^ 32 →
      (∀ files other dir now, (t.session.exportTo files other dir now).2.session = t.session)
        ∧ ∃ content : ByteArray, content.size = 68 + 4 * (frames.length * format.channels)
          ∧ ∀ files dir now, files.Usable dir (exportPath dir kind now) →
            (t.session.exportTo files kind dir now).2.result
                = .ok { path := exportPath dir kind now, bytes := content.size }
              ∧ (t.session.exportTo files kind dir now).1.read (exportPath dir kind now)
                = .ok content
              ∧ Wav.read (t.session.exportTo files kind dir now).1 (exportPath dir kind now)
                = .ok
                    { samples := frames.flatten.toArray
                      frameCount := frames.length
                      channels := format.channels
                      rate := format.rate } := by
  intro t format frames hstopped hframes hsize
  have hfits : ∀ kind, Wav.Fits (link.side kind).rate (link.side kind).channels := by
    intro kind
    cases kind with
    | played => exact hout
    | recorded => exact hin
  have hkeeps : Keeps link options.maxRecordSeconds t.tape t.session :=
    (keeps_offline options loopMode logTimings link).run
      ⟨hout.channels_pos, hin.channels_pos⟩ actions
  -- there is something on tape, so there is a recording, and it holds the frames in question
  have hside : t.tape.side kind ≠ [] := by
    intro hnone
    exact hframes (by simp only [frames, hnone, List.take_nil])
  obtain ⟨r, hrecording, hholds, hwidth⟩ :=
    recording_of_keeps (hkeeps.engine_of_side hside) kind
  have hlen : frames.flatten.length = frames.length * format.channels :=
    Frame.length_flatten fun f hf => hwidth f (List.mem_of_mem_take hf)
  have hsamples : r.samples = frames.flatten := by
    rw [Recording.samples, hholds.frames_of_length hwidth]
  have hpos : 0 < frames.length := List.length_pos_iff.mpr hframes
  have hfew : r.channels ≤ 65535 := by
    have := (hfits kind).channels_le
    rw [hholds.channels_eq]
    omega
  have hrate : ∀ kind, (link.side kind).rate ≠ 0 := fun kind =>
    Nat.ne_of_gt (hfits kind).rate_pos
  refine ⟨hkeeps.exportTo_eq hrate, (Wav.encode format.rate r.channels r.samples).toByteArray,
    ?_, ?_⟩
  · rw [List.size_toByteArray, Wav.length_encode, hsamples, hlen]
  · intro files dir now husable
    obtain ⟨hresult, hread⟩ :=
      exportTo_of_usable hstopped hrecording (hrate kind) hfew husable
    refine ⟨hresult, hread, ?_⟩
    rw [Wav.read_of_content hread, hholds.channels_eq, hsamples]
    exact Wav.decode_encode _ (hfits kind) hlen hpos (by rw [hlen]; omega)

/-- A link on which a period has one frame in either direction. -/
def oneFramePeriods : OfflineLink :=
  { output := { rate := 100, channels := 1 }, input := { rate := 100, channels := 1 } }

/-- Three periods over a clip of two frames that does not loop. -/
def threePeriods : List Action :=
  [.loadClip { samples := #[.one, .negOne], frameCount := 2, channels := 1, rate := 100 },
    .start 0,
    .pump 30000000,
    .stop 30000000]

/-- Recordings can be exported to the working directory of an empty file tree. -/
theorem usable_here : FileTree.Usable {} "" (exportPath "" .played 0) := by
  have hpath : exportPath "" .played 0 = "hfp_played_0_000.wav" := by decide +kernel
  -- the name has no slash in it; splitting it looks at one character after the other
  have hsplit : "hfp_played_0_000.wav".splitOn "/" = ["hfp_played_0_000.wav"] := by
    rw [String.splitOn, if_neg (by decide)]
    repeat rw [String.splitOnAux, if_neg (by decide +kernel), if_neg (by decide +kernel)]
    rw [String.splitOnAux, if_pos (by decide +kernel)]
    decide +kernel
  have hstart : "hfp_played_0_000.wav".startsWith "/" = false := by decide +kernel
  have hcontains : "hfp_played_0_000.wav".contains '\x00' = false := by simp
  have hempty : "hfp_played_0_000.wav".isEmpty = false := by decide
  rw [hpath]
  refine ⟨{}, [], [], [], "hfp_played_0_000.wav", rfl, ?_, rfl, rfl, hempty, by decide, by decide,
    by decide⟩
  simp only [FileTree.segments, FileTree.split, hcontains, hempty, hstart, hsplit, bind,
    Except.bind, Bool.false_eq_true, if_false]
  exact if_neg (by decide)

/-- The file has the two frames of the clip, without the silence after them. -/
theorem exports_two_frames :
    let t := Taped.run { session := offline { maxRecordSeconds := 1 } false false oneFramePeriods }
      threePeriods
    t.session.isRunning = false
      ∧ FileTree.Usable {} "" (exportPath "" .played 0)
      ∧ Wav.read (t.session.exportTo {} .played "" 0).1 (exportPath "" .played 0)
        = .ok { samples := #[.one, .negOne], frameCount := 2, channels := 1, rate := 100 } := by
  intro t
  have hfits : Wav.Fits 100 1 := ⟨by decide, by decide, by decide, by decide⟩
  have hstopped : t.session.isRunning = false := by decide +kernel
  obtain ⟨-, content, -, hexport⟩ :=
    exports_what_was_played_and_heard { maxRecordSeconds := 1 } false false oneFramePeriods hfits
      hfits threePeriods .played hstopped (by decide +kernel) (by decide +kernel)
  obtain ⟨-, -, hread⟩ := hexport {} "" 0 usable_here
  refine ⟨hstopped, usable_here, hread.trans (congrArg Except.ok ?_)⟩
  decide +kernel

end Session

end Loopback
