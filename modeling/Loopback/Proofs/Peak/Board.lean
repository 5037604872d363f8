import Loopback.Proofs.Peak
import Mathlib.Data.List.DropRight

/-! # Boards and the tickets of their resets

    A board may be reset any number of times, and each reset issues a ticket for its slots that may
    be used from then on.  The board shows what was published last with the latest ticket, channel
    by channel.

    * `Action` is an operation on a board, and `Issued` is a board with the tickets it has issued.
    * `Issued.Numbered` is the invariant of a run: tickets are numbered, and the board knows the
      number of the latest one.
    * `shownLevel` is the level of a channel according to the actions alone, and
      `Issued.getElem?_levels_run` says that the board shows it.
-/

namespace Loopback.PeakBoard

/-- A slot shows the level of its meter, if there is one. -/
theorem getElem?_overwrite (levels : List Sample) (meters : List Meter) (channel : Nat) :
    (overwrite levels meters)[channel]?
      = levels[channel]?.map fun level => (meters[channel]?.map (·.level)).getD level := by
  rw [overwrite, List.getElem?_append, List.length_map, List.length_take, List.getElem?_map,
    List.getElem?_drop]
  by_cases hslot : channel < levels.length
  · rw [List.getElem?_eq_getElem hslot]
    by_cases hmeter : channel < meters.length
    · have hfront : channel < min levels.length meters.length := by omega
      rw [if_pos hfront, List.getElem?_take_of_lt hslot, List.getElem?_eq_getElem hmeter]
      rfl
    · have hbeyond : ¬channel < min levels.length meters.length := by omega
      have hsame : meters.length + (channel - min levels.length meters.length) = channel := by
        omega
      rw [if_neg hbeyond, hsame, List.getElem?_eq_getElem hslot,
        List.getElem?_eq_none (Nat.le_of_not_lt hmeter)]
      rfl
  · have hbeyond : ¬channel < min levels.length meters.length := by omega
    have hrest : levels.length ≤ meters.length + (channel - min levels.length meters.length) := by
      omega
    rw [if_neg hbeyond, List.getElem?_eq_none hrest,
      List.getElem?_eq_none (Nat.le_of_not_lt hslot)]
    rfl

/-! ### Runs -/

inductive Action where
  | reset (channels : Nat)
  /-- Publishes with the ticket of a reset, counted from 0, or with the empty ticket. -/
  | publish (ticket : Option Nat) (meters : List Meter)

/-- Whether a ticket is that of the last of so many resets. -/
def isLatest (resets : Nat) : Option Nat → Bool
  | none => false
  | some number => number + 1 == resets

/-- A board with the tickets of its resets, in order. -/
structure Issued where
  board : PeakBoard := {}
  tickets : List PeakTicket := []

namespace Issued

/-- A ticket, if it has been issued.  The empty one always is. -/
def ticket? (s : Issued) : Option Nat → Option PeakTicket
  | none => some .empty
  | some number => s.tickets[number]?

/-- Performs an action.  Publishing with a ticket that has not been issued does nothing. -/
def perform (s : Issued) : Action → Issued
  | .reset channels =>
    let (board, ticket) := s.board.reset channels
    { board, tickets := s.tickets ++ [ticket] }
  | .publish which meters =>
    match s.ticket? which with
    | some ticket => { s with board := s.board.publish ticket meters }
    | none => s

/-- Performs actions on a new board. -/
def run (actions : List Action) : Issued := actions.foldl perform {}

theorem run_append (before after : List Action) :
    run (before ++ after) = after.foldl perform (run before) :=
  List.foldl_append

/-- The board has been reset this many times, and the tickets are numbered in order.  Before the
    first reset there are no slots. -/
structure Numbered (resets : Nat) (s : Issued) : Prop where
  generation_eq : s.board.generation = resets
  tickets_eq : s.tickets = (List.range resets).map fun number => ⟨number + 1⟩
  levels_eq_nil : resets = 0 → s.board.levels = []

theorem numbered_new : Numbered 0 {} := ⟨rfl, rfl, fun _ => rfl⟩

section

variable {resets : Nat} {s : Issued}

theorem Numbered.reset (h : Numbered resets s) (channels : Nat) :
    Numbered (resets + 1) (s.perform (.reset channels)) where
  generation_eq := congrArg (· + 1) h.generation_eq
  tickets_eq := by
    show s.tickets ++ [⟨s.board.generation + 1⟩] = _
    rw [h.tickets_eq, h.generation_eq, List.range_succ, List.map_append]
    rfl
  levels_eq_nil := fun hzero => absurd hzero (Nat.succ_ne_zero _)

theorem Numbered.ticket?_eq (h : Numbered resets s) (number : Nat) :
    s.ticket? (some number) = if number < resets then some ⟨number + 1⟩ else none := by
  rw [ticket?, h.tickets_eq, List.getElem?_map]
  by_cases hgiven : number < resets
  · rw [List.getElem?_range hgiven, if_pos hgiven]
    rfl
  · rw [List.getElem?_eq_none (by simpa using hgiven), if_neg hgiven]
    rfl

/-- The empty ticket is valid for a board before its first reset, which has no slots. -/
theorem Numbered.publish_empty (h : Numbered resets s) (meters : List Meter) :
    s.board.publish .empty meters = s.board := by
  rw [PeakBoard.publish]
  split
  · next heq =>
    have hlevels : s.board.levels = [] := h.levels_eq_nil (h.generation_eq.symm.trans heq.symm)
    have hnone : overwrite s.board.levels meters = s.board.levels := by
      rw [hlevels, ← List.length_eq_zero_iff, length_overwrite, List.length_nil]
    rw [hnone]
  · rfl

/-- The latest ticket overwrites slots, and any other one does nothing. -/
theorem Numbered.perform_publish (h : Numbered resets s) (which : Option Nat)
    (meters : List Meter) :
    s.perform (.publish which meters)
      = if isLatest resets which then
          { s with board.levels := overwrite s.board.levels meters }
        else s := by
  cases which with
  | none =>
    show { s with board := s.board.publish .empty meters } = s
    rw [h.publish_empty]
  | some number =>
    simp only [perform, h.ticket?_eq, isLatest, beq_iff_eq]
    by_cases hgiven : number < resets
    · simp only [if_pos hgiven, PeakBoard.publish, h.generation_eq]
      by_cases hlatest : number + 1 = resets
      · simp only [if_pos hlatest]
      · simp only [if_neg hlatest]
    · have hother : ¬number + 1 = resets := by omega
      simp only [if_neg hgiven, if_neg hother]

theorem Numbered.publish (h : Numbered resets s) (which : Option Nat) (meters : List Meter) :
    Numbered resets (s.perform (.publish which meters)) := by
  rw [h.perform_publish]
  split
  · refine ⟨h.generation_eq, h.tickets_eq, ?_⟩
    intro hzero
    show overwrite s.board.levels meters = []
    rw [← List.length_eq_zero_iff, length_overwrite, h.levels_eq_nil hzero, List.length_nil]
  · exact h

end

end Issued

/-! ### Levels -/

def Action.channels? : Action → Option Nat
  | .reset channels => some channels
  | .publish .. => none

/-- The channel counts of the resets among the actions. -/
def resetsOf (actions : List Action) : List Nat := actions.filterMap (·.channels?)

/-- The channel count of the latest reset, or 0 without any. -/
def channelCount (actions : List Action) : Nat := (resetsOf actions).getLast?.getD 0

/-- The actions since the latest reset. -/
def sinceReset (actions : List Action) : List Action :=
  actions.rtakeWhile fun a => a.channels?.isNone

/-- The level that an action publishes for a channel, if it uses the ticket of the last of so many
    resets. -/
def Action.level? (resets channel : Nat) : Action → Option Sample
  | .reset _ => none
  | .publish which meters =>
    if isLatest resets which then meters[channel]?.map (·.level) else none

/-- The level of a channel: the one published for it last, since the latest reset and with its
    ticket, or silence if there was none. -/
def shownLevel (actions : List Action) (channel : Nat) : Sample :=
  ((sinceReset actions).filterMap (·.level? (resetsOf actions).length channel)).getLast?.getD .zero

section

variable (actions : List Action)

theorem resetsOf_reset (channels : Nat) :
    resetsOf (actions ++ [.reset channels]) = resetsOf actions ++ [channels] := by
  simp [resetsOf, Action.channels?]

theorem resetsOf_publish (which : Option Nat) (meters : List Meter) :
    resetsOf (actions ++ [.publish which meters]) = resetsOf actions := by
  simp [resetsOf, Action.channels?]

theorem shownLevel_reset (channels channel : Nat) :
    shownLevel (actions ++ [.reset channels]) channel = .zero := by
  have hsince : sinceReset (actions ++ [.reset channels]) = [] :=
    List.rtakeWhile_concat_neg _ _ _ (by simp [Action.channels?])
  rw [shownLevel, hsince]
  rfl

/-- A publication changes the channels that it has a level for, if it is made with the latest
    ticket. -/
theorem shownLevel_publish (which : Option Nat) (meters : List Meter) (channel : Nat) :
    shownLevel (actions ++ [.publish which meters]) channel
      = ((Action.publish which meters).level? (resetsOf actions).length channel).getD
          (shownLevel actions channel) := by
  have hsince : sinceReset (actions ++ [.publish which meters])
      = sinceReset actions ++ [.publish which meters] :=
    List.rtakeWhile_concat_pos _ _ _ rfl
  rw [shownLevel, hsince, resetsOf_publish, List.filterMap_append, List.getLast?_append]
  cases hlevel : (Action.publish which meters).level? (resetsOf actions).length channel with
  | none => simp [hlevel, shownLevel]
  | some level => simp [hlevel]

namespace Issued

theorem numbered_run : Numbered (resetsOf actions).length (run actions) := by
  -- by induction on the newest action, since a run continues from the state before it
  induction actions using List.reverseRecOn with
  | nil => exact numbered_new
  | append_singleton actions a ih =>
    rw [run_append]
    cases a with
    | reset channels =>
      rw [resetsOf_reset, List.length_append]
      exact ih.reset channels
    | publish which meters =>
      rw [resetsOf_publish]
      exact ih.publish which meters

/-- After every run, the slots show these levels. -/
theorem getElem?_levels_run (channel : Nat) :
    (run actions).board.levels[channel]?
      = if channel < channelCount actions then some (shownLevel actions channel) else none := by
  induction actions using List.reverseRecOn with
  | nil => rfl
  | append_singleton actions a ih =>
    rw [run_append]
    cases a with
    | reset channels =>
      have hcount : channelCount (actions ++ [.reset channels]) = channels := by
        simp [channelCount, resetsOf_reset]
      show (List.replicate channels Sample.zero)[channel]? = _
      rw [List.getElem?_replicate, hcount, shownLevel_reset]
    | publish which meters =>
      have hcount : channelCount (actions ++ [.publish which meters]) = channelCount actions := by
        rw [channelCount, resetsOf_publish, channelCount]
      show ((run actions).perform (.publish which meters)).board.levels[channel]? = _
      rw [(numbered_run actions).perform_publish, hcount, shownLevel_publish, Action.level?]
      -- with the latest ticket a slot is overwritten where there is a meter for it
      by_cases hlatest : isLatest (resetsOf actions).length which = true
      · simp only [if_pos hlatest, getElem?_overwrite, ih]
        split <;> rfl
      · simp only [if_neg hlatest, ih, Option.getD_none]

/-- Publishing with a ticket that is not the latest makes no difference. -/
theorem run_publish_of_not_latest {which : Option Nat}
    (hstale : isLatest (resetsOf actions).length which = false) (meters : List Meter)
    (later : List Action) :
    run (actions ++ .publish which meters :: later) = run (actions ++ later) := by
  have hsame : (run actions).perform (.publish which meters) = run actions := by
    rw [(numbered_run actions).perform_publish, hstale]
    rfl
  rw [run_append, run_append, List.foldl_cons, hsame]

end Issued

end

end Loopback.PeakBoard
