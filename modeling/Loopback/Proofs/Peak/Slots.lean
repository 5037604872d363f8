import Loopback.Proofs.Peak.Board

/-! # Slots in memory

    A board only counts its resets.  The slots themselves are kept in memory, where each reset
    allocates a row of them: the board points to the newest row, and every ticket keeps pointing to
    its own row.  A ticket that is not the latest still writes to its slots, but they are not read
    any more.

    * `SlotMemory` keeps the rows, and stores levels one slot at a time.
    * `SlotMemory.Mirrors` is the invariant that relates it to a board: the latest ticket points to
      the row that is read, and no other one does.
    * `shows_latest_publications` is the law of a board, for slots in memory as for counted resets.
-/

namespace Loopback.PeakBoard

/-- Rows of slots, found by address, that are never freed.  The board points to one row, and each of
    its resets has issued the address of one. -/
structure SlotMemory where
  rows : List (List Sample) := [[]]
  /-- The row that is read. -/
  current : Nat := 0
  /-- The addresses that the resets have issued, in order. -/
  handles : List Nat := []

namespace SlotMemory

/-- The levels that can be read. -/
def read (m : SlotMemory) : List Sample := m.rows.getD m.current []

/-- Adds a row of silent slots and gives its address. -/
def allocate (m : SlotMemory) (channels : Nat) : SlotMemory × Nat :=
  ({ m with rows := m.rows ++ [List.replicate channels Sample.zero] }, m.rows.length)

def store (m : SlotMemory) (address channel : Nat) (level : Sample) : SlotMemory :=
  { m with rows := m.rows.modify address (·.set channel level) }

/-- Stores the levels of meters slot by slot, up to the end of the slots or of the meters. -/
def publish (m : SlotMemory) (address : Nat) (meters : List Meter) : SlotMemory :=
  let slots := (m.rows.getD address []).length
  (meters.take slots).zipIdx.foldl (fun m entry => m.store address entry.2 entry.1.level) m

def perform (m : SlotMemory) : Action → SlotMemory
  | .reset channels =>
    let (m, address) := m.allocate channels
    { m with current := address, handles := m.handles ++ [address] }
  | .publish none meters =>
    -- an empty ticket comes with a row of its own that has no slots
    let (m, address) := m.allocate 0
    m.publish address meters
  | .publish (some number) meters =>
    match m.handles[number]? with
    | some address => m.publish address meters
    | none => m

/-- Performs actions on a new board. -/
def run (actions : List Action) : SlotMemory := actions.foldl perform {}

theorem run_append (before after : List Action) :
    run (before ++ after) = after.foldl perform (run before) :=
  List.foldl_append

/-- Stores at one address change one row. -/
theorem foldl_store (m : SlotMemory) (address : Nat) (entries : List (Meter × Nat)) :
    entries.foldl (fun m entry => m.store address entry.2 entry.1.level) m
      = { m with rows := m.rows.modify address fun row =>
            entries.foldl (fun row entry => row.set entry.2 entry.1.level) row } := by
  induction entries generalizing m with
  | nil =>
    show m = { m with rows := m.rows.modify address id }
    rw [List.modify_id]
  | cons entry entries ih =>
    rw [List.foldl_cons, ih]
    show { m with rows := (m.rows.modify address (·.set entry.2 entry.1.level)).modify address _ }
      = _
    rw [List.modify_modify_eq]
    rfl

/-- Each meter sets the slot of its own index. -/
theorem getElem?_foldl_set (row : List Sample) (meters : List Meter) (start channel : Nat) :
    ((meters.zipIdx start).foldl (fun row entry => row.set entry.2 entry.1.level) row)[channel]?
      = row[channel]?.map fun level =>
          if start ≤ channel then (meters[channel - start]?.map (·.level)).getD level
          else level := by
  induction meters generalizing row start with
  | nil => simp
  | cons meter meters ih =>
    rw [List.zipIdx_cons, List.foldl_cons, ih, List.getElem?_set]
    -- the slot is after the one that is set first, is that one, or is before it
    rcases Nat.lt_trichotomy start channel with hlt | rfl | hgt
    · have hindex : channel - start = channel - (start + 1) + 1 := by omega
      rw [if_neg (by omega), hindex, List.getElem?_cons_succ]
      simp only [hlt.le, Nat.succ_le_iff.mpr hlt, if_true]
    · simp only [Nat.sub_self, List.getElem?_cons_zero, Option.map_some, Option.getD_some,
        Nat.not_succ_le_self, if_false, Nat.le_refl, if_true]
      by_cases hslot : start < row.length
      · simp [hslot]
      · simp [hslot]
    · have hbefore : ¬start ≤ channel := Nat.not_le_of_gt hgt
      have hbefore' : ¬start + 1 ≤ channel := by omega
      rw [if_neg (by omega)]
      simp only [hbefore, hbefore', if_false]

/-- Stored slot by slot, the levels of the meters overwrite the front of the row. -/
theorem publish_eq (m : SlotMemory) (address : Nat) (meters : List Meter) :
    m.publish address meters
      = { m with rows := m.rows.modify address (overwrite · meters) } := by
  rw [publish, foldl_store]
  congr 1
  -- row by row, and then slot by slot in the row that changes
  apply List.ext_getElem?
  intro other
  rw [List.getElem?_modify, List.getElem?_modify]
  by_cases haddress : address = other
  · subst haddress
    cases hrow : m.rows[address]? with
    | none => rfl
    | some row =>
      have hwidth : (m.rows.getD address []).length = row.length := by
        rw [List.getD_eq_getElem?_getD, hrow, Option.getD_some]
      simp only [if_true, Option.map_eq_map, Option.map_some, Option.some.injEq, hwidth]
      apply List.ext_getElem?
      intro channel
      rw [getElem?_foldl_set, getElem?_overwrite]
      by_cases hslot : channel < row.length
      · simp [hslot]
      · simp [Nat.le_of_not_lt hslot]
  · simp only [if_neg haddress]

/-- A publication is read exactly if it is made to the row that the board points to. -/
theorem read_publish (m : SlotMemory) (hcurrent : m.current < m.rows.length) (address : Nat)
    (meters : List Meter) :
    (m.publish address meters).read
      = if address = m.current then overwrite m.read meters else m.read := by
  rw [publish_eq]
  show (m.rows.modify address (overwrite · meters)).getD m.current [] = _
  rw [List.getD_eq_getElem?_getD, List.getElem?_modify, read, List.getD_eq_getElem?_getD,
    List.getElem?_eq_getElem hcurrent]
  by_cases haddress : address = m.current
  · simp only [haddress, if_true, Option.map_eq_map, Option.map_some, Option.getD_some]
  · simp only [haddress, if_false, Option.getD_some]
    rfl

/-- The memory has issued an address for each of so many resets; the last one is the address that
    the board points to, whose row has these levels. -/
structure Mirrors (resets : Nat) (levels : List Sample) (m : SlotMemory) : Prop where
  length_handles : m.handles.length = resets
  handle_lt : ∀ {number address : Nat}, m.handles[number]? = some address → address < m.rows.length
  current_lt : m.current < m.rows.length
  current_iff : ∀ {number address : Nat}, m.handles[number]? = some address →
    (address = m.current ↔ number + 1 = resets)
  read_eq : m.read = levels

theorem mirrors_new : Mirrors 0 [] {} := by
  refine ⟨rfl, ?_, by decide, ?_, rfl⟩
  all_goals
    intro number address hhandle
    cases hhandle

section

variable {resets : Nat} {levels : List Sample} {m : SlotMemory}

/-- No handle points to the new row yet. -/
theorem Mirrors.reset (h : Mirrors resets levels m) (channels : Nat) :
    Mirrors (resets + 1) (List.replicate channels .zero) (m.perform (.reset channels)) := by
  -- a handle is an old one, which points to an old row, or else the new one
  have hhandles : ∀ {number address : Nat},
      (m.handles ++ [m.rows.length])[number]? = some address →
        (number < resets ∧ address < m.rows.length)
          ∨ (number = resets ∧ address = m.rows.length) := by
    intro number address hhandle
    rw [List.getElem?_append, h.length_handles] at hhandle
    by_cases hold : number < resets
    · rw [if_pos hold] at hhandle
      exact .inl ⟨hold, h.handle_lt hhandle⟩
    · rw [if_neg hold, List.getElem?_singleton] at hhandle
      split at hhandle
      · exact .inr ⟨by omega, (Option.some.inj hhandle).symm⟩
      · cases hhandle
  refine ⟨?_, ?_, ?_, ?_, ?_⟩
  · show (m.handles ++ [m.rows.length]).length = _
    rw [List.length_append, h.length_handles]
    rfl
  · intro number address hhandle
    show address < (m.rows ++ [_]).length
    rw [List.length_append, List.length_singleton]
    rcases hhandles hhandle with ⟨-, hlt⟩ | ⟨-, heq⟩ <;> omega
  · show m.rows.length < (m.rows ++ [_]).length
    simp
  · intro number address hhandle
    show address = m.rows.length ↔ _
    rcases hhandles hhandle with ⟨hlt, hold⟩ | ⟨heq, hnew⟩ <;> omega
  · show (m.rows ++ [List.replicate channels Sample.zero]).getD m.rows.length [] = _
    simp

/-- Other rows may be added and overwritten. -/
theorem Mirrors.of_rows {levels' : List Sample} {rows : List (List Sample)}
    (h : Mirrors resets levels m) (hlength : m.rows.length ≤ rows.length)
    (hread : ({ m with rows } : SlotMemory).read = levels') :
    Mirrors resets levels' { m with rows } where
  length_handles := h.length_handles
  handle_lt := fun hhandle => Nat.lt_of_lt_of_le (h.handle_lt hhandle) hlength
  current_lt := Nat.lt_of_lt_of_le h.current_lt hlength
  current_iff := h.current_iff
  read_eq := hread

theorem Mirrors.publish (h : Mirrors resets levels m) (which : Option Nat) (meters : List Meter) :
    Mirrors resets (if isLatest resets which then overwrite levels meters else levels)
      (m.perform (.publish which meters)) := by
  cases which with
  | none =>
    -- the row of an empty ticket is new, so it is not the one that is read
    let allocated : SlotMemory := (m.allocate 0).1
    have hread : allocated.read = levels := by
      rw [← h.read_eq]
      show (m.rows ++ [_]).getD m.current [] = m.rows.getD m.current []
      rw [List.getD_eq_getElem?_getD, List.getElem?_append_left h.current_lt,
        List.getD_eq_getElem?_getD]
    have hallocated : Mirrors resets levels allocated := h.of_rows (by simp) hread
    have hother : ¬m.rows.length = allocated.current := Nat.ne_of_gt h.current_lt
    have hpublished := read_publish allocated hallocated.current_lt m.rows.length meters
    rw [if_neg hother, hread] at hpublished
    show Mirrors resets levels (allocated.publish m.rows.length meters)
    rw [publish_eq] at hpublished ⊢
    exact hallocated.of_rows (by simp) hpublished
  | some number =>
    cases hhandle : m.handles[number]? with
    | none =>
      -- the ticket is still to be given
      have hother : isLatest resets (some number) = false := by
        have hle := List.getElem?_eq_none_iff.mp hhandle
        rw [h.length_handles] at hle
        simp only [isLatest, beq_eq_false_iff_ne]
        omega
      have hsame : m.perform (.publish (some number) meters) = m := by
        simp only [perform, hhandle]
      rw [hsame, hother]
      exact h
    | some address =>
      have hread := read_publish m h.current_lt address meters
      simp only [h.current_iff hhandle, h.read_eq] at hread
      simp only [perform, hhandle, isLatest, beq_iff_eq]
      rw [publish_eq] at hread ⊢
      exact h.of_rows (by simp) hread

end

/-- After every run, the levels in memory are those of the board. -/
theorem mirrors_run (actions : List Action) :
    Mirrors (resetsOf actions).length (Issued.run actions).board.levels (run actions) := by
  induction actions using List.reverseRecOn with
  | nil => exact mirrors_new
  | append_singleton actions a ih =>
    rw [run_append, Issued.run_append]
    cases a with
    | reset channels =>
      rw [resetsOf_reset, List.length_append]
      exact ih.reset channels
    | publish which meters =>
      rw [resetsOf_publish]
      have hlevels : ((Issued.run actions).perform (.publish which meters)).board.levels
          = if isLatest (resetsOf actions).length which then
              overwrite (Issued.run actions).board.levels meters
            else (Issued.run actions).board.levels := by
        rw [(Issued.numbered_run actions).perform_publish]
        split <;> rfl
      show Mirrors _ ((Issued.run actions).perform (.publish which meters)).board.levels
        ((run actions).perform (.publish which meters))
      rw [hlevels]
      exact ih.publish which meters

end SlotMemory

/-! ### The law of a board -/

/-- **A board shows what was published since its latest reset.** After any actions, it has the
    channels of its latest reset, and none before the first.  Each channel shows the level that was
    published for it last, since that reset and with its ticket, or silence if there was none.
    Other channels cannot be read.  Slots in memory show the same.  Using a ticket that is not the
    latest makes no difference, then or later. -/
theorem shows_latest_publications (actions : List Action) :
    let board := (Issued.run actions).board
    board.liveChannels = channelCount actions
      ∧ board.levels = (List.range (channelCount actions)).map (shownLevel actions)
      ∧ (∀ channel, board.get? channel
          = if channel < channelCount actions then some (shownLevel actions channel) else none)
      ∧ (SlotMemory.run actions).read = board.levels
      ∧ ∀ which meters later, isLatest (resetsOf actions).length which = false →
          (Issued.run (actions ++ .publish which meters :: later)).board
            = (Issued.run (actions ++ later)).board := by
  intro board
  have hshown := Issued.getElem?_levels_run actions
  have hlevels : board.levels = (List.range (channelCount actions)).map (shownLevel actions) := by
    apply List.ext_getElem?
    intro channel
    rw [hshown, List.getElem?_map]
    by_cases hchannel : channel < channelCount actions
    · rw [if_pos hchannel, List.getElem?_range hchannel]
      rfl
    · rw [if_neg hchannel, List.getElem?_eq_none (by simpa using hchannel)]
      rfl
  refine ⟨?_, hlevels, hshown, (SlotMemory.mirrors_run actions).read_eq, ?_⟩
  · rw [liveChannels, hlevels, List.length_map, List.length_range]
  · intro which meters later hstale
    rw [Issued.run_publish_of_not_latest actions hstale]

def meterAt (level : Sample) : Meter := ⟨level, .one⟩

/-- The first reset's ticket is used beyond its channels, and again after the second reset.  The
    second ticket publishes one level for two channels, and later none. -/
def twoResets : List Action :=
  [.publish none [meterAt .one],
    .reset 1,
    .publish (some 0) [meterAt .one, meterAt .half],
    .reset 2,
    .publish (some 1) [meterAt .half],
    .publish (some 0) [meterAt .one, meterAt .one],
    .publish (some 1) []]

/-- The second channel is silent, although levels were published for it with the first ticket. -/
theorem shows_latest_publications_of_two_resets :
    let board := (Issued.run twoResets).board
    let stale := Action.publish (some 0) [meterAt .one]
    let fresh := Action.publish (some 1) [meterAt .one]
    board.liveChannels = 2
      ∧ board.levels = [.half, .zero]
      ∧ board.get? 2 = none
      ∧ (SlotMemory.run twoResets).read = [.half, .zero]
      ∧ isLatest (resetsOf twoResets).length (some 0) = false
      ∧ (Issued.run (twoResets ++ [stale, fresh])).board
          = (Issued.run (twoResets ++ [fresh])).board := by
  intro board stale fresh
  obtain ⟨hlive, hlevels, hget, hread, hstale⟩ := shows_latest_publications twoResets
  have hshown : board.levels = [.half, .zero] := hlevels.trans (by decide)
  exact ⟨hlive, hshown, hget 2, hread.trans hshown, by decide,
    hstale (some 0) [meterAt .one] [fresh] (by decide)⟩

end Loopback.PeakBoard
