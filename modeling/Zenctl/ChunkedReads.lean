import Zenctl.LibIo
import Zenctl.HeapBlock
import Zenctl.CmdFirmware

namespace Zenctl

open CString

/-!
# Reading a file in chunks

`zenctl__read_file_binary` and `read_payload_file` collect a file in a heap
block that doubles when it is full.  `readFileBinary` and `readPayloadFile` take
the file as a whole; here are the loops themselves, with the block, the `size_t`
arithmetic and one delivery for each `fread` or `read`.
-/

/-- What one call has for the caller: a signal, or at most so many bytes, but not none. -/
inductive Delivery where
  | interrupted
  | upTo (bytes : Nat) (positive : 0 < bytes)
  deriving DecidableEq

/-- What the calls have for the caller one after the other; signals do not go on forever. -/
structure Deliveries where
  answer : Nat → Delivery
  progress : ∀ call, ∃ later, call ≤ later ∧ answer later ≠ .interrupted

/-- The number of bytes an `fread` delivers at most. -/
abbrev ChunkSize := { bytes : Nat // 0 < bytes }

/-- `fread` does not return because of a signal. -/
def Deliveries.ofChunks (chunks : Nat → ChunkSize) : Deliveries where
  answer call := .upTo (chunks call).1 (chunks call).2
  progress call := ⟨call, le_rfl, nofun⟩

/-- Arithmetic of `size_t`. -/
def sizeT (n : Nat) : Nat :=
  n % 2 ^ 64

/-- `PTRDIFF_MAX`, the largest request the allocator can grant. -/
def ptrdiffMax : Nat := 2 ^ 63 - 1

/-- `malloc` or `realloc` of so many bytes, and the answers left for later. -/
def heapRequest (allocations : List Bool) (size : Nat) : Bool × List Bool :=
  match allocations with
  | [] => (decide (size ≤ ptrdiffMax), [])
  | granted :: later => (granted && decide (size ≤ ptrdiffMax), later)

/-! ## The loop -/

/-- The variables of the loop, what the file still holds, and the calls made. -/
structure ReadLoop where
  buf : HeapBlock Char
  cap : Nat
  len : Nat
  rest : List Char
  calls : Nat
  allocations : List Bool
  deriving DecidableEq

/-- What one turn of `for (;;)` leads to. -/
inductive Turn where
  | again (state : ReadLoop)
  | finished (state : ReadLoop)
  | noMemory (allocations : List Bool)
  /-- A store outside the block. -/
  | fault
  deriving DecidableEq

namespace ReadLoop

/-- The state before the first turn. -/
def start (cap : Nat) (content : List Char) (allocations : List Bool) : ReadLoop :=
  ⟨.fresh cap, cap, 0, content, 0, allocations⟩

/-- `if (len == cap)`: double the block. -/
def grow (state : ReadLoop) : Except (List Bool) ReadLoop :=
  if state.len = state.cap then
    let ncap := sizeT (state.cap * 2)
    match heapRequest state.allocations ncap with
    | (true, later) =>
        .ok { state with buf := state.buf.resize ncap, cap := ncap, allocations := later }
    | (false, later) => .error later
  else .ok state

/-- `fread(buf + len, 1, cap - len, f)` or `read(fd, buf + len, cap - len)`. -/
def fetch (state : ReadLoop) : Delivery → Turn
  | .interrupted => .again { state with calls := state.calls + 1 }
  | .upTo bytes _ =>
      let r := min bytes (min (sizeT (state.cap + 2 ^ 64 - state.len)) state.rest.length)
      if r = 0 then .finished { state with calls := state.calls + 1 }
      else
        match state.buf.store state.len (state.rest.take r) with
        | some buf =>
            .again { state with
              buf := buf
              len := sizeT (state.len + r)
              rest := state.rest.drop r
              calls := state.calls + 1 }
        | none => .fault

def turn (deliveries : Deliveries) (state : ReadLoop) : Turn :=
  match state.grow with
  | .ok grown => grown.fetch (deliveries.answer grown.calls)
  | .error later => .noMemory later

/-- Turn after turn; the last one, when the fuel reaches it. -/
def run (deliveries : Deliveries) : Nat → ReadLoop → Option Turn
  | 0, _ => none
  | fuel + 1, state =>
      match state.turn deliveries with
      | .again next => run deliveries fuel next
      | last => some last

/-- The states before each turn. -/
inductive Reaches (deliveries : Deliveries) (first : ReadLoop) : ReadLoop → Prop
  | start : Reaches deliveries first first
  | turn {state next : ReadLoop} (before : Reaches deliveries first state)
      (again : state.turn deliveries = .again next) : Reaches deliveries first next

end ReadLoop

/-! ## The two functions -/

/-- What the functions return: the block and the length, or the reason of the failure. -/
inductive ReadResult where
  | content (out : HeapBlock Char) (length : Nat)
  | noMemory (message : CStr)
  | readError (e : Errno)
  | fault
  deriving DecidableEq

/-- The common part: allocate, run the loop, look at the read error. -/
def readInChunks (cap : Nat) (mallocFailed reallocFailed : CStr)
    (finish : ReadLoop → ReadResult × List Bool) (deliveries : Deliveries)
    (file : OpenFile) (fuel : Nat) (allocations : List Bool) : Option (ReadResult × List Bool) :=
  match heapRequest allocations cap with
  | (false, later) => some (.noMemory mallocFailed, later)
  | (true, later) =>
      match (ReadLoop.start cap file.bytes later).run deliveries fuel with
      | none => none
      | some (.finished last) =>
          match file.readError with
          | some e => some (.readError e, last.allocations)
          | none => some (finish last)
      | some (.noMemory left) => some (.noMemory reallocFailed, left)
      | some _ => some (.fault, [])

/-- Shrink the block to the contents and a NUL; the block stays as it is when that fails. -/
def shrinkAndTerminate (last : ReadLoop) : ReadResult × List Bool :=
  let (shrunk, later) := heapRequest last.allocations (sizeT (last.len + 1))
  let block := if shrunk then last.buf.resize (sizeT (last.len + 1)) else last.buf
  match block.store last.len ['\x00'] with
  | some out => (.content out last.len, later)
  | none => (.fault, later)

/-- `zenctl__read_file_binary` from the first `malloc` on. -/
def readFileBinaryInChunks (chunks : Nat → ChunkSize) :
    OpenFile → Nat → List Bool → Option (ReadResult × List Bool) :=
  readInChunks 256 "malloc failed" "realloc failed" shrinkAndTerminate (.ofChunks chunks)

/-- `read_payload_file` from the `malloc` on. -/
def readPayloadFileInChunks (deliveries : Deliveries) :
    OpenFile → Nat → List Bool → Option (ReadResult × List Bool) :=
  readInChunks 4096 "oom" "oom" (fun last => (.content last.buf last.len, last.allocations))
    deliveries

/-! ## What one turn keeps -/

/-- The allocator said no, or a block twice the file would be larger than any. -/
def Refusing (content : List Char) (allocations : List Bool) : Prop :=
  false ∈ allocations ∨ 2 ^ 62 ≤ content.length

/-- The block has `cap` cells and starts with what was read; the rest is still to come. -/
structure ReadLoop.Inv (content : List Char) (state : ReadLoop) : Prop where
  size : state.buf.size = state.cap
  room : state.len ≤ state.cap
  positive : 0 < state.cap
  bounded : state.cap ≤ ptrdiffMax
  collected : ∃ read, read.length = state.len ∧ state.buf.Begins read ∧
    read ++ state.rest = content

/-- What is known after a turn. -/
def Turn.Sound (content : List Char) (state : ReadLoop) : Turn → Prop
  | .again next => next.Inv content ∧ next.allocations <:+ state.allocations
  | .finished last => last.Inv content ∧ last.allocations <:+ state.allocations ∧
      last.rest = [] ∧ last.len < last.cap
  | .noMemory _ => Refusing content state.allocations
  | .fault => False

theorem Refusing.of_suffix
    {content : List Char} {left allocations : List Bool}
    (refusing : Refusing content left) (later : left <:+ allocations) :
    Refusing content allocations :=
  refusing.imp_left fun member => later.subset member

theorem Turn.Sound.of_later
    {content : List Char} {state next : ReadLoop} {last : Turn}
    (sound : last.Sound content next) (later : next.allocations <:+ state.allocations) :
    last.Sound content state := by
  cases last with
  | again final => exact ⟨sound.1, sound.2.trans later⟩
  | finished final => exact ⟨sound.1, sound.2.1.trans later, sound.2.2⟩
  | noMemory left => exact Refusing.of_suffix sound later
  | fault => exact sound

theorem heapRequest_later (allocations : List Bool) (size : Nat) :
    (heapRequest allocations size).2 <:+ allocations := by
  cases allocations with
  | nil => exact List.suffix_refl _
  | cons granted later => exact List.suffix_cons _ _

/-- A request the allocator can grant fails only when it says no. -/
theorem heapRequest_refused
    {allocations : List Bool} {size : Nat}
    (refused : (heapRequest allocations size).1 = false) :
    false ∈ allocations ∨ ptrdiffMax < size := by
  cases allocations with
  | nil =>
      simp only [heapRequest, decide_eq_false_iff_not] at refused
      exact .inr (by omega)
  | cons granted later =>
      simp only [heapRequest, Bool.and_eq_false_iff, decide_eq_false_iff_not] at refused
      rcases refused with rfl | large
      · exact .inl (by simp)
      · exact .inr (by omega)

theorem heapRequest_granted
    {allocations : List Bool} {size : Nat}
    (granted : (heapRequest allocations size).1 = true) :
    size ≤ ptrdiffMax := by
  cases allocations <;> simp_all [heapRequest]

namespace ReadLoop

variable {content : List Char} {state : ReadLoop}

theorem Inv.start
    {cap : Nat} (positive : 0 < cap) (bounded : cap ≤ ptrdiffMax)
    (content : List Char) (allocations : List Bool) :
    (start cap content allocations).Inv content where
  size := HeapBlock.fresh_size cap
  room := Nat.zero_le cap
  positive := positive
  bounded := bounded
  collected := ⟨[], rfl, HeapBlock.begins_nil _, rfl⟩

theorem Inv.len_le
    (inv : state.Inv content) :
    state.len ≤ content.length := by
  obtain ⟨read, length, _, whole⟩ := inv.collected
  rw [← whole, List.length_append]
  omega

/-- A block that fits the address space can be doubled in `size_t`. -/
theorem Inv.double
    (inv : state.Inv content) :
    sizeT (state.cap * 2) = state.cap * 2 := by
  have bounded := inv.bounded
  unfold ptrdiffMax at bounded
  exact Nat.mod_eq_of_lt (by omega)

/-- The growth test: nothing to do, a doubled block, or a refusal. -/
theorem Inv.grow_cases
    (inv : state.Inv content) :
    (state.len < state.cap ∧ state.grow = .ok state) ∨
    (state.len = state.cap ∧ (heapRequest state.allocations (state.cap * 2)).1 = true ∧
      state.grow = .ok { state with
        buf := state.buf.resize (state.cap * 2)
        cap := state.cap * 2
        allocations := (heapRequest state.allocations (state.cap * 2)).2 }) ∨
    (state.len = state.cap ∧ (heapRequest state.allocations (state.cap * 2)).1 = false ∧
      state.grow = .error (heapRequest state.allocations (state.cap * 2)).2) := by
  have room := inv.room
  by_cases full : state.len = state.cap
  · right
    cases answer : heapRequest state.allocations (state.cap * 2) with
    | mk granted later =>
        cases granted with
        | true => exact .inl ⟨full, rfl, by simp only [grow, full, ↓reduceIte, inv.double, answer]⟩
        | false => exact .inr ⟨full, rfl, by simp only [grow, full, ↓reduceIte, inv.double, answer]⟩
  · exact .inl ⟨by omega, if_neg full⟩

/-- After the test there is room for a byte; only a refusal ends the loop there. -/
theorem Inv.grow
    (inv : state.Inv content) :
    (∃ grown, state.grow = .ok grown ∧ grown.Inv content ∧ grown.len < grown.cap ∧
      grown.allocations <:+ state.allocations ∧ grown.rest = state.rest ∧
      grown.calls = state.calls) ∨
    (∃ left, state.grow = .error left ∧ Refusing content state.allocations) := by
  obtain ⟨read, length, begins, whole⟩ := inv.collected
  rcases inv.grow_cases with ⟨spare, same⟩ | ⟨full, granted, doubled⟩ | ⟨full, refused, failed⟩
  · exact .inl ⟨state, same, inv, spare, List.suffix_refl _, rfl, rfl⟩
  · have positive := inv.positive
    refine .inl ⟨_, doubled, ?_, by dsimp only; omega, heapRequest_later _ _, rfl, rfl⟩
    exact {
      size := HeapBlock.resize_size _ _
      room := by dsimp only; omega
      positive := by dsimp only; omega
      bounded := heapRequest_granted granted
      collected := ⟨read, length, begins.resize _ (by omega), whole⟩ }
  · refine .inr ⟨_, failed, ?_⟩
    rcases heapRequest_refused refused with said | large
    · exact .inl said
    · right
      have reached := inv.len_le
      unfold ptrdiffMax at large
      omega

/-- A delivery: nothing new, the end of the file, or a chunk behind what was read. -/
theorem Inv.fetch
    (inv : state.Inv content) (spare : state.len < state.cap) (delivery : Delivery) :
    (delivery = .interrupted ∧ state.fetch delivery = .again { state with calls := state.calls + 1 }) ∨
    (state.rest = [] ∧ state.fetch delivery = .finished { state with calls := state.calls + 1 }) ∨
    (∃ next, state.fetch delivery = .again next ∧ next.Inv content ∧
      next.rest.length < state.rest.length ∧ next.calls = state.calls + 1 ∧
      next.cap = state.cap ∧ next.allocations = state.allocations) := by
  obtain ⟨read, length, begins, whole⟩ := inv.collected
  have bounded := inv.bounded
  unfold ptrdiffMax at bounded
  cases delivery with
  | interrupted => exact .inl ⟨rfl, rfl⟩
  | upTo bytes positive =>
      right
      have room : sizeT (state.cap + 2 ^ 64 - state.len) = state.cap - state.len := by
        rw [sizeT, show state.cap + 2 ^ 64 - state.len = state.cap - state.len + 2 ^ 64 by omega,
          Nat.add_mod_right]
        exact Nat.mod_eq_of_lt (by omega)
      by_cases ended : state.rest = []
      · exact .inl ⟨ended, by simp [ReadLoop.fetch, ended]⟩
      · right
        have some := List.length_pos_iff.mpr ended
        obtain ⟨r, chunk⟩ : ∃ r, r = min bytes (min (state.cap - state.len) state.rest.length) :=
          ⟨_, rfl⟩
        have taken : (state.rest.take r).length = r := by
          rw [List.length_take]
          omega
        have size := inv.size
        obtain ⟨buf, stored, sameSize, holds⟩ :=
          begins.store (state.rest.take r) (by omega)
        rw [length] at stored
        have sum : sizeT (state.len + r) = state.len + r := Nat.mod_eq_of_lt (by omega)
        refine ⟨{ state with
          buf := buf
          len := state.len + r
          rest := state.rest.drop r
          calls := state.calls + 1 }, ?_, ?_, ?_, rfl, rfl, rfl⟩
        · simp only [ReadLoop.fetch, room, ← chunk, sum, stored]
          rw [if_neg (by omega)]
        · exact {
            size := sameSize.trans size
            room := by dsimp only; omega
            positive := inv.positive
            bounded := inv.bounded
            collected := ⟨read ++ state.rest.take r, by simp only [List.length_append]; omega,
              holds, by simp [whole]⟩ }
        · simp only [List.length_drop]
          omega

theorem Inv.called
    (inv : state.Inv content) (calls : Nat) :
    { state with calls := calls }.Inv content :=
  ⟨inv.size, inv.room, inv.positive, inv.bounded, inv.collected⟩

/-- One turn keeps the invariant, stores inside the block and ends only below `cap`. -/
theorem Inv.turn
    (inv : state.Inv content) (deliveries : Deliveries) :
    (state.turn deliveries).Sound content state := by
  unfold ReadLoop.turn
  rcases inv.grow with ⟨grown, answer, kept, spare, later, _, _⟩ | ⟨left, answer, refusing⟩
  · rw [answer]
    dsimp only
    rcases kept.fetch spare (deliveries.answer grown.calls) with
      ⟨_, fetched⟩ | ⟨ended, fetched⟩ | ⟨next, fetched, inv, _, _, _, same⟩
    · rw [fetched]
      exact ⟨kept.called _, later⟩
    · rw [fetched]
      exact ⟨kept.called _, later, ended, spare⟩
    · rw [fetched]
      exact ⟨inv, same ▸ later⟩
  · rw [answer]
    exact refusing

/-- Every state before a turn satisfies the invariant. -/
theorem Reaches.inv
    {deliveries : Deliveries} {first : ReadLoop}
    (reaches : Reaches deliveries first state) (initial : first.Inv content) :
    state.Inv content := by
  induction reaches with
  | start => exact initial
  | turn before again inductionHypothesis =>
      have sound := inductionHypothesis.turn deliveries
      rw [again] at sound
      exact sound.1

/-! ## Whole runs -/

/-- What is known after the last turn. -/
theorem Inv.run
    {deliveries : Deliveries} {fuel : Nat} {last : Turn}
    (inv : state.Inv content)
    (ends : state.run deliveries fuel = some last) :
    last.Sound content state ∧ ∀ next, last ≠ .again next := by
  induction fuel generalizing state with
  | zero => cases ends
  | succ fuel inductionHypothesis =>
      have sound := inv.turn deliveries
      unfold ReadLoop.run at ends
      split at ends
      · next next again =>
          rw [again] at sound
          obtain ⟨after, final⟩ := inductionHypothesis sound.1 ends
          exact ⟨after.of_later sound.2, final⟩
      · next stops =>
          cases ends
          exact ⟨sound, stops⟩

/-- More fuel changes nothing. -/
theorem run_more
    {deliveries : Deliveries} {fuel more : Nat} {last : Turn}
    (enough : fuel ≤ more)
    (ends : state.run deliveries fuel = some last) :
    state.run deliveries more = some last := by
  induction fuel generalizing state more with
  | zero => cases ends
  | succ fuel inductionHypothesis =>
      obtain ⟨more, rfl⟩ : ∃ rest, more = rest + 1 := ⟨more - 1, by omega⟩
      unfold ReadLoop.run at ends ⊢
      split at ends
      · exact inductionHypothesis (by omega) ends
      · exact ends

/-- A turn that is answered ends the loop or leaves less to read. -/
theorem Inv.turn_progress
    (inv : state.Inv content) (deliveries : Deliveries) :
    (∃ next, state.turn deliveries = .again next ∧ next.Inv content ∧
      next.calls = state.calls + 1 ∧ next.rest.length ≤ state.rest.length ∧
      (deliveries.answer state.calls ≠ .interrupted → next.rest.length < state.rest.length)) ∨
    ∀ next, state.turn deliveries ≠ .again next := by
  unfold ReadLoop.turn
  rcases inv.grow with ⟨grown, answer, kept, spare, _, sameRest, sameCalls⟩ | ⟨left, answer, _⟩
  · rw [answer, ← sameRest, ← sameCalls]
    dsimp only
    rcases kept.fetch spare (deliveries.answer grown.calls) with
      ⟨signal, fetched⟩ | ⟨_, fetched⟩ | ⟨next, fetched, inv, fewer, calls, _, _⟩
    · exact .inl ⟨_, fetched, kept.called _, rfl, le_rfl, fun answered => (answered signal).elim⟩
    · exact .inr fun next again => by rw [fetched] at again; cases again
    · exact .inl ⟨next, fetched, inv, calls, by omega, fun _ => fewer⟩
  · rw [answer]
    exact .inr nofun

/-- The loop ends, whatever the deliveries are. -/
theorem Inv.ends
    (inv : state.Inv content) (deliveries : Deliveries) :
    ∃ fuel last, state.run deliveries fuel = some last := by
  -- by the bytes left, and inside by the distance to the next call that is answered
  suffices bounded : ∀ bytes waiting state, Inv content state → state.rest.length ≤ bytes →
      deliveries.answer (state.calls + waiting) ≠ .interrupted →
        ∃ fuel last, state.run deliveries fuel = some last by
    obtain ⟨later, reached, answered⟩ := deliveries.progress state.calls
    exact bounded _ (later - state.calls) state inv le_rfl
      (by rwa [Nat.add_sub_cancel' reached])
  have oneMore : ∀ {state next : ReadLoop}, state.turn deliveries = .again next →
      (∃ fuel last, next.run deliveries fuel = some last) →
        ∃ fuel last, state.run deliveries fuel = some last := by
    rintro state next again ⟨fuel, last, ends⟩
    exact ⟨fuel + 1, last, by rw [ReadLoop.run, again]; exact ends⟩
  have stops : ∀ {state : ReadLoop}, (∀ next, state.turn deliveries ≠ .again next) →
      ∃ fuel last, state.run deliveries fuel = some last := by
    intro state ending
    refine ⟨1, state.turn deliveries, ?_⟩
    unfold ReadLoop.run
    split
    · next next again => exact (ending next again).elim
    · rfl
  intro bytes
  induction bytes using Nat.strong_induction_on with
  | _ bytes outer =>
      intro waiting
      induction waiting with
      | zero =>
          intro state inv few answered
          rcases inv.turn_progress deliveries with ⟨next, again, kept, _, _, fewer⟩ | ending
          · have less := fewer answered
            obtain ⟨later, reached, answeredLater⟩ := deliveries.progress next.calls
            exact oneMore again (outer _ (by omega) (later - next.calls) next kept le_rfl
              (by rwa [Nat.add_sub_cancel' reached]))
          · exact stops ending
      | succ waiting inductionHypothesis =>
          intro state inv few answered
          rcases inv.turn_progress deliveries with ⟨next, again, kept, calls, fewer, _⟩ | ending
          · refine oneMore again (inductionHypothesis next kept (by omega) ?_)
            rwa [calls, Nat.add_assoc, Nat.add_comm 1 waiting]
          · exact stops ending

end ReadLoop

/-! ## What is returned -/

/-- The whole content and its length, or a refused allocation. -/
def ReadResult.Delivers (content ending : List Char) (allocations : List Bool) :
    ReadResult → Prop
  | .content out length => length = content.length ∧ out.Begins (content ++ ending)
  | .noMemory _ => Refusing content allocations
  | .readError _ | .fault => False

/-- After the loop the block starts with the whole content. -/
theorem ReadLoop.Inv.begins_content
    {content : List Char} {last : ReadLoop}
    (inv : last.Inv content) (ended : last.rest = []) :
    last.len = content.length ∧ last.buf.Begins content := by
  obtain ⟨read, length, begins, whole⟩ := inv.collected
  rw [ended, List.append_nil] at whole
  subst read
  exact ⟨length.symm, begins⟩

/-- The NUL has its cell, in the shrunk block and in the one that stayed. -/
theorem ReadLoop.Inv.terminator_fits
    {content : List Char} {last : ReadLoop}
    (inv : last.Inv content) (ended : last.rest = []) (spare : last.len < last.cap)
    (shrunk : Bool) :
    ∃ out, (if shrunk then last.buf.resize (sizeT (last.len + 1)) else last.buf).store
        last.len ['\x00'] = some out ∧ out.Begins (content ++ ['\x00']) := by
  obtain ⟨length, begins⟩ := inv.begins_content ended
  have bounded := inv.bounded
  have size := inv.size
  unfold ptrdiffMax at bounded
  have next : sizeT (last.len + 1) = last.len + 1 := Nat.mod_eq_of_lt (by omega)
  rw [next, length]
  cases shrunk with
  | true =>
      obtain ⟨out, stored, _, holds⟩ :=
        (begins.resize (content.length + 1) (by omega)).store ['\x00']
          (by rw [HeapBlock.resize_size]; rfl)
      exact ⟨out, stored, holds⟩
  | false =>
      obtain ⟨out, stored, _, holds⟩ :=
        begins.store ['\x00'] (by simp only [List.length_singleton]; omega)
      exact ⟨out, stored, holds⟩

theorem shrinkAndTerminate_delivers
    {content : List Char} {last : ReadLoop}
    (inv : last.Inv content) (ended : last.rest = []) (spare : last.len < last.cap)
    (allocations : List Bool) :
    (shrinkAndTerminate last).1.Delivers content ['\x00'] allocations := by
  obtain ⟨out, stored, holds⟩ := inv.terminator_fits ended spare
    (heapRequest last.allocations (sizeT (last.len + 1))).1
  simp only [shrinkAndTerminate, stored]
  exact ⟨(inv.begins_content ended).1, holds⟩

/-- The common part delivers what its last step makes of the collected block. -/
theorem readInChunks_delivers
    {cap : Nat} {finish : ReadLoop → ReadResult × List Bool} {ending : List Char}
    (positive : 0 < cap) (bounded : cap ≤ ptrdiffMax)
    (finishes : ∀ {content last}, ReadLoop.Inv content last → last.rest = [] →
      last.len < last.cap → ∀ allocations, (finish last).1.Delivers content ending allocations)
    (mallocFailed reallocFailed : CStr) (deliveries : Deliveries)
    (content : List Char) (allocations : List Bool) :
    ∃ enough result left, (∀ fuel, enough ≤ fuel →
        readInChunks cap mallocFailed reallocFailed finish deliveries ⟨content, none⟩ fuel
          allocations = some (result, left)) ∧
      result.Delivers content ending allocations := by
  cases answer : heapRequest allocations cap with
  | mk granted later =>
      have suffix : later <:+ allocations := by
        simpa only [answer] using heapRequest_later allocations cap
      cases granted with
      | false =>
          refine ⟨0, .noMemory mallocFailed, later, fun fuel _ => ?_, ?_⟩
          · simp only [readInChunks, answer]
          · refine .inl ((heapRequest_refused (by rw [answer])).resolve_right ?_)
            omega
      | true =>
          have initial := ReadLoop.Inv.start positive bounded content later
          obtain ⟨enough, last, ends⟩ := initial.ends deliveries
          obtain ⟨sound, stops⟩ := initial.run ends
          have stays : ∀ fuel, enough ≤ fuel →
              (ReadLoop.start cap content later).run deliveries fuel = some last :=
            fun fuel more => ReadLoop.run_more more ends
          cases last with
          | again next => exact (stops next rfl).elim
          | fault => exact sound.elim
          | noMemory left =>
              refine ⟨enough, .noMemory reallocFailed, left, fun fuel more => ?_, ?_⟩
              · simp only [readInChunks, answer, stays fuel more]
              · exact Refusing.of_suffix sound suffix
          | finished last =>
              obtain ⟨inv, _, ended, spare⟩ := sound
              refine ⟨enough, (finish last).1, (finish last).2, fun fuel more => ?_, ?_⟩
              · simp only [readInChunks, answer, stays fuel more]
              · exact finishes inv ended spare allocations

theorem readFileBinaryInChunks_delivers
    (chunks : Nat → ChunkSize) (content : List Char) (allocations : List Bool) :
    ∃ enough result left, (∀ fuel, enough ≤ fuel →
        readFileBinaryInChunks chunks ⟨content, none⟩ fuel allocations = some (result, left)) ∧
      result.Delivers content ['\x00'] allocations :=
  readInChunks_delivers (by decide) (by decide) shrinkAndTerminate_delivers _ _ _ _ _

theorem readPayloadFileInChunks_delivers
    (deliveries : Deliveries) (content : List Char) (allocations : List Bool) :
    ∃ enough result left, (∀ fuel, enough ≤ fuel →
        readPayloadFileInChunks deliveries ⟨content, none⟩ fuel allocations =
          some (result, left)) ∧
      result.Delivers content [] allocations := by
  refine readInChunks_delivers (by decide) (by decide) ?_ _ _ _ _ _
  intro content last inv ended _ allocations
  obtain ⟨length, begins⟩ := inv.begins_content ended
  exact ⟨length, by rwa [List.append_nil]⟩

/--
However a file is handed out, both functions return its content and its length
unless an allocation is refused.  The loop stores inside the block and never has
more bytes than cells; when it ends a cell is left for the NUL, whether the
block is shrunk or not.
-/
theorem chunked_reads_deliver
    (content : List Char) (allocations : List Bool) (chunks : Nat → ChunkSize)
    (deliveries : Deliveries) :
    (∃ enough result left, (∀ fuel, enough ≤ fuel →
        readFileBinaryInChunks chunks ⟨content, none⟩ fuel allocations = some (result, left)) ∧
      result.Delivers content ['\x00'] allocations) ∧
    (∃ enough result left, (∀ fuel, enough ≤ fuel →
        readPayloadFileInChunks deliveries ⟨content, none⟩ fuel allocations =
          some (result, left)) ∧
      result.Delivers content [] allocations) ∧
    ∀ cap, cap = 256 ∨ cap = 4096 → ∀ state,
      ReadLoop.Reaches deliveries (.start cap content allocations) state →
        state.len ≤ state.cap ∧ state.buf.size = state.cap ∧
        state.turn deliveries ≠ .fault ∧
        ∀ last, state.turn deliveries = .finished last →
          last.len < last.cap ∧ last.buf.size = last.cap ∧
          ∀ shrunk : Bool,
            ((if shrunk then last.buf.resize (sizeT (last.len + 1)) else last.buf).store
              last.len ['\x00']).isSome = true := by
  refine ⟨readFileBinaryInChunks_delivers chunks content allocations,
    readPayloadFileInChunks_delivers deliveries content allocations, ?_⟩
  intro cap first state reaches
  have inv : state.Inv content := by
    apply reaches.inv
    rcases first with rfl | rfl <;> exact .start (by decide) (by decide) _ _
  have sound := inv.turn deliveries
  refine ⟨inv.room, inv.size, ?_, ?_⟩
  · intro fault
    rw [fault] at sound
    exact sound
  · intro last finished
    rw [finished] at sound
    obtain ⟨final, _, ended, spare⟩ := sound
    refine ⟨spare, final.size, fun shrunk => ?_⟩
    obtain ⟨out, stored, _⟩ := final.terminator_fits ended spare shrunk
    rw [stored]
    rfl

/-! ## The models that take the file at once -/

/-- The bytes a caller reads through the two results. -/
def ReadResult.outcome : ReadResult → Outcome (List Char)
  | .content out length => .value ((out.cells.take length).filterMap id)
  | .noMemory _ | .readError _ | .fault => .failed

theorem ReadResult.outcome_content
    {content ending : List Char} {out : HeapBlock Char}
    (begins : out.Begins (content ++ ending)) :
    (ReadResult.content out content.length).outcome = .value content := by
  have first : out.Begins content :=
    List.IsPrefix.trans (by simp) begins
  rw [ReadResult.outcome, first.take_eq]
  simp

section Whole

variable {σ τ : Type} {os : Os σ} {sys : σ} {proc : Proc}

theorem allocate_granted
    {size : Nat} {later : List Bool}
    (granted : heapRequest proc.allocations size = (true, later)) :
    allocate os sys proc = (.value true, { proc with allocations := later }) := by
  obtain ⟨errno, err, allocations, nvml, family⟩ := proc
  cases allocations with
  | nil =>
      simp only [heapRequest, Prod.mk.injEq] at granted
      rw [← granted.2]
      rfl
  | cons answer rest =>
      simp only [heapRequest, Prod.mk.injEq, Bool.and_eq_true] at granted
      obtain ⟨⟨rfl, _⟩, rfl⟩ := granted
      rfl

theorem allocate_refused
    {size : Nat} {later : List Bool}
    (fits : size ≤ ptrdiffMax)
    (refused : heapRequest proc.allocations size = (false, later)) :
    allocate os sys proc =
      (.value false, { proc with allocations := later, errno := Errno.enomem.1 }) := by
  obtain ⟨errno, err, allocations, nvml, family⟩ := proc
  cases allocations with
  | nil =>
      simp [heapRequest, fits] at refused
  | cons answer rest =>
      simp only [heapRequest, fits, decide_true, Bool.and_true, Prod.mk.injEq] at refused
      obtain ⟨rfl, rfl⟩ := refused
      rfl

theorem allocateOr_granted
    {size : Nat} {later : List Bool}
    (granted : heapRequest proc.allocations size = (true, later)) (message context : CStr) :
    allocateOr message context os sys proc = (.value (), { proc with allocations := later }) :=
  (GetM.bind_value (allocate_granted granted)).trans rfl

theorem allocateOr_refused
    {size : Nat} {later : List Bool}
    (fits : size ≤ ptrdiffMax)
    (refused : heapRequest proc.allocations size = (false, later))
    (os : Os σ) (sys : σ) (message context : CStr) :
    ∃ final, allocateOr message context os sys proc = (.failed, final) ∧
      final.allocations = later :=
  ⟨_, (GetM.bind_value (allocate_refused fits refused)).trans rfl, rfl⟩

/-- How the loop ended and what growing the buffer for the whole file answers. -/
def Turn.Matches (proc : Proc) (answer : Outcome Unit × Proc) : Turn → Prop
  | .finished last => answer = (.value (), { proc with allocations := last.allocations })
  | .noMemory left => answer.1 = .failed ∧ answer.2.allocations = left
  | .again _ | .fault => True

theorem growBuffer_done
    {length capacity : Nat} (fits : length < capacity) (path : CStr) (rounds : Nat) :
    growBuffer path length rounds capacity os sys proc = (.value (), proc) := by
  cases rounds with
  | zero => rfl
  | succ rounds => rw [growBuffer, if_pos fits]; rfl

/-- A full block is no place for the whole file, and a round is left to double it. -/
theorem ReadLoop.Inv.growBuffer_full
    {content : List Char} {state : ReadLoop} {rounds : Nat}
    (inv : state.Inv content)
    (enough : content.length < state.cap + rounds)
    (full : state.len = state.cap)
    (path : CStr) :
    ∃ left, rounds = left + 1 ∧
      growBuffer path content.length rounds state.cap os sys proc =
        (do allocateOr "realloc failed" path
            growBuffer path content.length left (state.cap * 2) : GetM σ Unit) os sys proc := by
  have reached := inv.len_le
  obtain ⟨left, rfl⟩ : ∃ left, rounds = left + 1 := ⟨rounds - 1, by omega⟩
  refine ⟨left, rfl, ?_⟩
  rw [growBuffer, if_neg (by omega)]

/-- Earlier answers of the allocator are forgotten. -/
theorem Turn.Matches.of_later
    {last : Turn} {answer : Outcome Unit × Proc} {allocations : List Bool}
    (matched : last.Matches { proc with allocations := allocations } answer) :
    last.Matches proc answer := by
  cases last <;> exact matched

/-- The growth test allocates when the buffer for the whole file does. -/
theorem ReadLoop.Inv.grow_growBuffer
    {content : List Char} {state : ReadLoop} {rounds : Nat}
    (inv : state.Inv content)
    (small : content.length < 2 ^ 62)
    (enough : content.length < state.cap + rounds)
    (memory : proc.allocations = state.allocations)
    (path : CStr) :
    (∃ grown left, state.grow = .ok grown ∧ grown.Inv content ∧ grown.len < grown.cap ∧
      content.length < grown.cap + left ∧
      growBuffer path content.length rounds state.cap os sys proc =
        growBuffer path content.length left grown.cap os sys
          { proc with allocations := grown.allocations }) ∨
    ∃ later final, state.grow = .error later ∧
      growBuffer path content.length rounds state.cap os sys proc = (.failed, final) ∧
      final.allocations = later := by
  rcases inv.grow with ⟨grown, answer, kept, spare, _⟩ | ⟨later, answer, _⟩
  · left
    rcases inv.grow_cases with ⟨_, same⟩ | ⟨full, granted, doubled⟩ | ⟨_, _, failed⟩
    · cases answer.symm.trans same
      exact ⟨_, rounds, answer, kept, spare, enough, by rw [← memory]⟩
    · cases answer.symm.trans doubled
      obtain ⟨rounds, rfl, step⟩ := inv.growBuffer_full enough full path
      have asked : heapRequest proc.allocations (state.cap * 2) =
          (true, (heapRequest state.allocations (state.cap * 2)).2) := by
        rw [memory, ← granted]
      have positive := inv.positive
      refine ⟨_, rounds, answer, kept, spare, by dsimp only; omega, ?_⟩
      rw [step, GetM.bind_value (allocateOr_granted asked _ _)]
    · cases answer.symm.trans failed
  · right
    rcases inv.grow_cases with ⟨_, same⟩ | ⟨_, _, doubled⟩ | ⟨full, refused, failed⟩
    · cases answer.symm.trans same
    · cases answer.symm.trans doubled
    · obtain ⟨rounds, rfl, step⟩ := inv.growBuffer_full enough full path
      have asked : heapRequest proc.allocations (state.cap * 2) =
          (false, (heapRequest state.allocations (state.cap * 2)).2) := by
        rw [memory, ← refused]
      have reached := inv.len_le
      have fits : state.cap * 2 ≤ ptrdiffMax := by
        unfold ptrdiffMax
        omega
      obtain ⟨final, stopped, kept⟩ := allocateOr_refused fits asked os sys "realloc failed" path
      exact ⟨_, final, failed, by rw [step, GetM.bind_failed stopped], kept⟩

/-- The loop allocates when the buffer for the whole file does. -/
theorem ReadLoop.Inv.run_growBuffer
    {content : List Char} {state : ReadLoop} {deliveries : Deliveries} {fuel rounds : Nat}
    {last : Turn}
    (inv : state.Inv content)
    (small : content.length < 2 ^ 62)
    (enough : content.length < state.cap + rounds)
    (memory : proc.allocations = state.allocations)
    (ends : state.run deliveries fuel = some last)
    (path : CStr) :
    last.Matches proc (growBuffer path content.length rounds state.cap os sys proc) := by
  induction fuel generalizing state rounds proc with
  | zero => cases ends
  | succ fuel inductionHypothesis =>
      unfold ReadLoop.run ReadLoop.turn at ends
      rcases inv.grow_growBuffer small enough memory path with
        ⟨grown, rounds, answer, kept, spare, enough, same⟩ | ⟨later, final, answer, failed, rest⟩
      · rw [answer] at ends
        rw [same]
        dsimp only at ends
        rcases kept.fetch spare (deliveries.answer grown.calls) with
          ⟨_, fetched⟩ | ⟨ended, fetched⟩ | ⟨next, fetched, keeps, _, _, cap, allocations⟩
        · rw [fetched] at ends
          exact (inductionHypothesis (kept.called (grown.calls + 1)) enough rfl ends).of_later
        · rw [fetched] at ends
          cases ends
          rw [growBuffer_done (by rw [← (kept.begins_content ended).1]; exact spare)]
          rfl
        · rw [fetched] at ends
          rw [← cap] at enough ⊢
          exact (inductionHypothesis keeps enough allocations.symm ends).of_later
      · rw [answer] at ends
        cases ends
        rw [failed]
        exact ⟨rfl, rest⟩

/-- The last `realloc` and what is returned. -/
theorem ReadLoop.Inv.shrink_run
    {content : List Char} {last : ReadLoop}
    (inv : last.Inv content) (ended : last.rest = []) (spare : last.len < last.cap)
    (os : Os σ) (sys : σ) (proc : Proc) (memory : proc.allocations = last.allocations) :
    ((do let _ ← allocate
         pure content : GetM σ (List Char)) os sys proc).1 =
        (shrinkAndTerminate last).1.outcome ∧
      ((do let _ ← allocate
           pure content : GetM σ (List Char)) os sys proc).2.allocations =
        (shrinkAndTerminate last).2 := by
  obtain ⟨out, stored, holds⟩ := inv.terminator_fits ended spare
    (heapRequest last.allocations (sizeT (last.len + 1))).1
  have returned : (ReadResult.content out last.len).outcome = .value content := by
    rw [(inv.begins_content ended).1]
    exact ReadResult.outcome_content holds
  have bounded := inv.bounded
  have fits : sizeT (last.len + 1) ≤ ptrdiffMax :=
    (Nat.mod_le _ _).trans (by omega)
  simp only [shrinkAndTerminate, stored, returned]
  cases shrink : heapRequest last.allocations (sizeT (last.len + 1)) with
  | mk shrunk rest =>
      rw [← memory] at shrink
      cases shrunk with
      | true =>
          rw [GetM.bind_value (allocate_granted shrink)]
          exact ⟨rfl, rfl⟩
      | false =>
          rw [GetM.bind_value (allocate_refused fits shrink)]
          exact ⟨rfl, rfl⟩

/-- `readFileBinary` is what the loop comes to, for every answer of the allocator. -/
theorem readFileBinary_inChunks
    {path : CStr} {file : OpenFile} {chunks : Nat → ChunkSize} {fuel : Nat}
    {result : ReadResult} {left : List Bool}
    (opened : os.openRead sys (resolvePath os.sysfsRoot path) = .ok file)
    (small : file.bytes.length < 2 ^ 62)
    (run : readFileBinaryInChunks chunks file fuel proc.allocations = some (result, left)) :
    (readFileBinary path os sys proc).1 = result.outcome ∧
      (readFileBinary path os sys proc).2.allocations = left := by
  have start : readFileBinary path os sys proc = _ :=
    GetM.bind_value (openResolved_ok opened proc)
  unfold readFileBinaryInChunks readInChunks at run
  cases answer : heapRequest proc.allocations 256 with
  | mk granted later =>
      rw [answer] at run
      cases granted with
      | false =>
          cases run
          obtain ⟨final, stopped, kept⟩ :=
            allocateOr_refused (by decide) answer os sys "malloc failed" path
          rw [start.trans (GetM.bind_failed stopped)]
          exact ⟨rfl, kept⟩
      | true =>
          have first := start.trans (GetM.bind_value (allocateOr_granted answer _ _))
          have initial := @ReadLoop.Inv.start 256 (by decide) (by decide) file.bytes later
          dsimp only at run
          cases ends : (ReadLoop.start 256 file.bytes later).run (.ofChunks chunks) fuel with
          | none =>
              rw [ends] at run
              cases run
          | some last =>
              rw [ends] at run
              have grown : last.Matches { proc with allocations := later }
                  (growBuffer path file.bytes.length file.bytes.length 256 os sys
                    { proc with allocations := later }) :=
                initial.run_growBuffer small (by simp only [ReadLoop.start]; omega) rfl ends path
              obtain ⟨sound, stops⟩ := initial.run ends
              cases last with
              | again next => exact (stops next rfl).elim
              | fault => exact sound.elim
              | noMemory rest =>
                  cases run
                  obtain ⟨failed, kept⟩ := grown
                  rw [first.trans (GetM.bind_failed (Prod.ext failed rfl))]
                  exact ⟨rfl, kept⟩
              | finished last =>
                  obtain ⟨inv, _, ended, spare⟩ := sound
                  rw [first.trans (GetM.bind_value grown)]
                  cases error : file.readError with
                  | some e =>
                      simp only [error] at run
                      cases run
                      exact ⟨rfl, rfl⟩
                  | none =>
                      simp only [error, Option.some.injEq] at run
                      have finished := inv.shrink_run ended spare os sys
                        { proc with allocations := last.allocations } rfl
                      rw [run] at finished
                      exact finished

/-- `readPayloadFile` returns what the loop collects while there is memory. -/
theorem readPayloadFile_inChunks
    {ctx : Ctx σ τ} {sys : σ} {path : CStr} {data : List Char}
    (read : ctx.host.readFile sys path = .ok data)
    (small : data.length < 2 ^ 62)
    (deliveries : Deliveries) (console : Console τ) :
    ∃ enough result left, (∀ fuel, enough ≤ fuel →
        readPayloadFileInChunks deliveries ⟨data, none⟩ fuel [] = some (result, left)) ∧
      ∃ bytes, result.outcome = .value bytes ∧
        readPayloadFile path ctx sys console = (.ok bytes, console) := by
  obtain ⟨enough, result, left, run, delivers⟩ :=
    readPayloadFileInChunks_delivers deliveries data []
  refine ⟨enough, result, left, run, data, ?_, ?_⟩
  · cases result with
    | content out length =>
        obtain ⟨rfl, begins⟩ := delivers
        exact ReadResult.outcome_content begins
    | noMemory message =>
        rcases delivers with member | large
        · cases member
        · omega
    | readError e => exact delivers.elim
    | fault => exact delivers.elim
  · simp only [readPayloadFile, ReadM.bind_run, readFile, read, ReadM.pure_run]

end Whole

end Zenctl
