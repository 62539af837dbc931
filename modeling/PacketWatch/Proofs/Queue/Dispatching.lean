/-
# `PacketWatch.Proofs.Queue.Dispatching` — a dispatcher hands on what stands in front of the marker

The queue holds data, then the first marker, then anything:

    front.map .data ++ .endOfStream :: behind

While other threads push items and change what handing on works on, three things can be told of
the dispatcher (`Came`): it waits, with some of `front` handed on and the others still in the
queue; it holds the next one; or it is gone, with all of them handed on and the marker taken out.
Which of them it is depends on the number of turns that it has had and not on how handing on
ended.  So one lemma about one turn (`Came.take`) counts the turns that are left as well, and the
induction over the turns says that the dispatcher leaves, and when.

`dispatchAll` is what the dispatcher comes to when nobody else moves, and the dispatcher of a
pipeline takes the same turns, with the pool as what it works on.
-/
import PacketWatch.Dispatch.Shared
import PacketWatch.Pipeline.Turn
import PacketWatch.Proofs.Runs

namespace PacketWatch

namespace SharedDispatcher

variable {σ α : Type} {hand : σ → α → Handing × σ}

/-! ## What is seen -/

/-- The items that were handed on, and how each of them ended. -/
def callsOf (seen : List (Event α)) : List (α × Handing) :=
  seen.filterMap fun
    | .handed a handing => some (a, handing)
    | _ => none

/-- The items that were handed on. -/
def handedOf (seen : List (Event α)) : List α := (callsOf seen).map (·.1)

/-- The items that other threads put into the queue. -/
def pushedOf (seen : List (Event α)) : List (QueueItem α) :=
  seen.filterMap fun
    | .pushed item => some item
    | _ => none

/-- What the dispatcher reported. -/
def linesOf (seen : List (Event α)) : List LogLine :=
  seen.filterMap fun
    | .reported line => some line
    | _ => none

theorem callsOf_append (seen later : List (Event α)) :
    callsOf (seen ++ later) = callsOf seen ++ callsOf later :=
  List.filterMap_append

theorem handedOf_append (seen later : List (Event α)) :
    handedOf (seen ++ later) = handedOf seen ++ handedOf later := by
  rw [handedOf, callsOf_append, List.map_append]
  rfl

theorem pushedOf_append (seen later : List (Event α)) :
    pushedOf (seen ++ later) = pushedOf seen ++ pushedOf later :=
  List.filterMap_append

theorem linesOf_append (seen later : List (Event α)) :
    linesOf (seen ++ later) = linesOf seen ++ linesOf later :=
  List.filterMap_append

theorem callsOf_reported (lines : List LogLine) :
    callsOf (lines.map (Event.reported (α := α))) = [] :=
  List.filterMap_eq_nil_iff.mpr (List.forall_mem_map.mpr fun _ _ => rfl)

theorem pushedOf_reported (lines : List LogLine) :
    pushedOf (lines.map (Event.reported (α := α))) = [] :=
  List.filterMap_eq_nil_iff.mpr (List.forall_mem_map.mpr fun _ _ => rfl)

theorem linesOf_reported (lines : List LogLine) :
    linesOf (lines.map (Event.reported (α := α))) = lines := by
  rw [linesOf, List.filterMap_map]
  exact List.filterMap_some

/-! ## One turn of the dispatcher -/

section
variable {d : SharedDispatcher σ α}

theorem take_fetch {a : α} {rest : List (QueueItem α)} (waiting : d.dispatcher = .waiting)
    (items : d.queue.items = .data a :: rest) :
    (machine hand).take d .dispatch =
      ({ d with queue := ⟨rest⟩, dispatcher := .holding a }, []) := by
  refine Machine.take_of_turn ?_
  show d.dispatch? hand = _
  rw [dispatch?, waiting]
  show d.fetch? = _
  rw [fetch?, Queue.pop?, items]

theorem take_meet {rest : List (QueueItem α)} (waiting : d.dispatcher = .waiting)
    (items : d.queue.items = .endOfStream :: rest) :
    (machine hand).take d .dispatch =
      ({ d with queue := ⟨rest⟩, dispatcher := .gone }, [.ended]) := by
  refine Machine.take_of_turn ?_
  show d.dispatch? hand = _
  rw [dispatch?, waiting]
  show d.fetch? = _
  rw [fetch?, Queue.pop?, items]

theorem take_empty (waiting : d.dispatcher = .waiting) (items : d.queue.items = []) :
    (machine hand).take d .dispatch = (d, []) := by
  refine Machine.take_of_wait ?_
  show d.dispatch? hand = _
  rw [dispatch?, waiting]
  show d.fetch? = _
  rw [fetch?, Queue.pop?, items]

theorem take_hand {a : α} (holding : d.dispatcher = .holding a) :
    (machine hand).take d .dispatch =
      ({ d with dispatcher := .waiting, state := (hand d.state a).2 },
        .handed a (hand d.state a).1 :: (hand d.state a).1.lines.map .reported) := by
  refine Machine.take_of_turn ?_
  show d.dispatch? hand = _
  rw [dispatch?, holding]

theorem take_idle (idle : d.dispatcher = .gone ∨ d.dispatcher = .absent) :
    (machine hand).take d .dispatch = (d, []) := by
  refine Machine.take_of_wait ?_
  show d.dispatch? hand = _
  rcases idle with gone | absent
  · rw [dispatch?, gone]
  · rw [dispatch?, absent]

end

/-! ## How far the dispatcher has come -/

/-- Whether it is the dispatcher's turn. -/
def Turn.isDispatch : Turn σ α → Bool
  | .dispatch => true
  | _ => false

/-- How far the dispatcher has come with the data in front of the marker, and how many turns it
still needs. -/
inductive Came (front : List α) (behind : List (QueueItem α)) (seen : List (Event α))
    (d : SharedDispatcher σ α) : Nat → Prop
  | waiting {left : List α} :
      d.dispatcher = .waiting → front = handedOf seen ++ left →
      d.queue.items = left.map .data ++ .endOfStream :: (behind ++ pushedOf seen) →
      Came front behind seen d (2 * left.length + 1)
  | holding {a : α} {left : List α} :
      d.dispatcher = .holding a → front = handedOf seen ++ a :: left →
      d.queue.items = left.map .data ++ .endOfStream :: (behind ++ pushedOf seen) →
      Came front behind seen d (2 * left.length + 2)
  | gone :
      d.dispatcher = .gone → front = handedOf seen → d.queue.items = behind ++ pushedOf seen →
      Came front behind seen d 0

section
variable {front : List α} {behind : List (QueueItem α)} {seen : List (Event α)}
  {d : SharedDispatcher σ α} {n : Nat}

/-- What another thread pushes is queued behind all else. -/
theorem Came.push (came : Came front behind seen d n) (item : QueueItem α) :
    Came front behind (seen ++ [.pushed item]) { d with queue := d.queue.push item } n := by
  have handed : handedOf (seen ++ [.pushed item]) = handedOf seen := by
    rw [handedOf_append]
    exact List.append_nil _
  have pushed : pushedOf (seen ++ [.pushed item]) = pushedOf seen ++ [item] :=
    pushedOf_append _ _
  cases came with
  | waiting waiting split items =>
      refine .waiting waiting (by rw [handed]; exact split) ?_
      show d.queue.items ++ [item] = _
      rw [items, pushed]
      simp only [List.append_assoc, List.cons_append]
  | holding holding split items =>
      refine .holding holding (by rw [handed]; exact split) ?_
      show d.queue.items ++ [item] = _
      rw [items, pushed]
      simp only [List.append_assoc, List.cons_append]
  | gone gone split items =>
      refine .gone gone (by rw [handed]; exact split) ?_
      show d.queue.items ++ [item] = _
      rw [items, pushed, List.append_assoc]

/-- What handing on works on may be changed at any moment. -/
theorem Came.change (came : Came front behind seen d n) (f : σ → σ) :
    Came front behind seen { d with state := f d.state } n := by
  cases came with
  | waiting waiting split items => exact .waiting waiting split items
  | holding holding split items => exact .holding holding split items
  | gone gone split items => exact .gone gone split items

/-- A turn of the dispatcher, until it is gone: it takes an item or the marker out, or it hands
on what it holds, however that ends. -/
theorem Came.dispatch (came : Came front behind seen d n) :
    Came front behind (seen ++ ((machine hand).take d .dispatch).2)
      ((machine hand).take d .dispatch).1 (n - 1) := by
  cases came with
  | @waiting left waiting split items =>
      cases left with
      | nil =>
          rw [take_meet waiting items]
          refine .gone rfl ?_ ?_
          · rw [handedOf_append, split]
            rfl
          · rw [pushedOf_append]
            exact congrArg (behind ++ ·) (List.append_nil _).symm
      | cons a left =>
          rw [take_fetch waiting items, List.append_nil]
          exact .holding rfl split rfl
  | @holding a left holding split items =>
      -- the item counts as handed on before anybody asks how that ended
      rw [take_hand holding]
      refine .waiting rfl ?_ ?_
      · rw [handedOf_append, split, List.append_cons]
        refine congrArg (handedOf seen ++ · ++ left) ?_
        show [a] = a :: (callsOf _).map _
        rw [callsOf_reported, List.map_nil]
      · show d.queue.items = _
        rw [items, pushedOf_append]
        refine congrArg (fun more => _ ++ .endOfStream :: (behind ++ more)) ?_
        exact (List.append_nil _).symm.trans (congrArg _ (pushedOf_reported _).symm)
  | gone gone split items =>
      rw [take_idle (.inl gone), List.append_nil]
      exact .gone gone split items

theorem Came.inOrder (came : Came front behind seen d n) : handedOf seen <+: front := by
  cases came with
  | waiting _ split _ => exact ⟨_, split.symm⟩
  | holding _ split _ => exact ⟨_, split.symm⟩
  | gone _ split _ => exact ⟨[], (List.append_nil _).trans split.symm⟩

/-- What there is to tell of a dispatcher that is gone. -/
theorem Came.of_gone (came : Came front behind seen d n) (left : d.dispatcher = .gone) :
    handedOf seen = front ∧ d.queue.items = behind ++ pushedOf seen := by
  cases came with
  | waiting waiting _ _ => cases waiting.symm.trans left
  | holding holding _ _ => cases holding.symm.trans left
  | gone _ split items => exact ⟨split.symm, items⟩

theorem Came.gone_of_zero (came : Came front behind seen d 0) : d.dispatcher = .gone := by
  cases came with
  | gone gone _ _ => exact gone

variable (hand)

/-- One turn of any thread. -/
theorem Came.take (came : Came front behind seen d n) (t : Turn σ α) :
    Came front behind (seen ++ ((machine hand).take d t).2) ((machine hand).take d t).1
      (n - if t.isDispatch then 1 else 0) := by
  cases t with
  | push item => exact came.push item
  | change f =>
      show Came front behind (seen ++ []) _ _
      rw [List.append_nil]
      exact came.change f
  | dispatch => exact came.dispatch

/-- Turns of all threads, in any order. -/
theorem Came.takeAll (came : Came front behind seen d n) (turns : List (Turn σ α)) :
    Came front behind (seen ++ ((machine hand).takeAll d turns).2)
      ((machine hand).takeAll d turns).1 (n - turns.countP (·.isDispatch)) := by
  induction turns generalizing seen d n with
  | nil =>
      show Came front behind (seen ++ []) d _
      rw [List.append_nil]
      exact came
  | cons t more ih =>
      have later := ih (came.take hand t)
      rw [List.append_assoc, Nat.sub_sub, Nat.add_comm, ← List.countP_cons] at later
      exact later

end

/-! ## What is reported -/

/-- What the dispatcher reports in a turn is what came of the item that it handed on. -/
theorem linesOf_take (d : SharedDispatcher σ α) (t : Turn σ α) :
    linesOf ((machine hand).take d t).2 =
      (callsOf ((machine hand).take d t).2).flatMap (·.2.lines) := by
  cases t with
  | push item => rfl
  | change f => rfl
  | dispatch =>
      cases doing : d.dispatcher with
      | waiting =>
          cases items : d.queue.items with
          | nil => rw [take_empty doing items]; rfl
          | cons item rest =>
              cases item with
              | data a => rw [take_fetch doing items]; rfl
              | endOfStream => rw [take_meet doing items]; rfl
      | holding a =>
          rw [take_hand doing]
          show linesOf (List.map _ _) = List.flatMap _ (_ :: callsOf (List.map _ _))
          rw [linesOf_reported, callsOf_reported, List.flatMap_singleton]
      | gone => rw [take_idle (.inl doing)]; rfl
      | absent => rw [take_idle (.inr doing)]; rfl

theorem linesOf_takeAll (d : SharedDispatcher σ α) (turns : List (Turn σ α)) :
    linesOf ((machine hand).takeAll d turns).2 =
      (callsOf ((machine hand).takeAll d turns).2).flatMap (·.2.lines) := by
  induction turns generalizing d with
  | nil => rfl
  | cons t more ih =>
      let next := (machine hand).take d t
      have split : ((machine hand).takeAll d (t :: more)).2 =
          next.2 ++ ((machine hand).takeAll next.1 more).2 := rfl
      rw [split, linesOf_append, callsOf_append, List.flatMap_append, linesOf_take, ih]

/-! ## The dispatcher alone -/

/-- How handing items on ends, one after the other. -/
def handings (hand : σ → α → Handing × σ) (s : σ) : List α → List Handing
  | [] => []
  | a :: more => (hand s a).1 :: handings hand (hand s a).2 more

/-- Up to the marker every item is handed on once, whatever came of those before it. -/
theorem dispatchAll_eq (front : List α) (behind : List (QueueItem α)) (s : σ) :
    dispatchAll hand s (front.map .data ++ .endOfStream :: behind) =
      { state := front.foldl (fun s a => (hand s a).2) s
        rest := behind
        hasEnded := true
        lines := (handings hand s front).flatMap Handing.lines } := by
  induction front generalizing s with
  | nil => rfl
  | cons a front ih =>
      have first (rest : List (QueueItem α)) :
          dispatchAll hand s (.data a :: rest) =
            { dispatchAll hand (hand s a).2 rest with
              lines := (hand s a).1.lines ++ (dispatchAll hand (hand s a).2 rest).lines } := rfl
      rw [List.map_cons, List.cons_append, first, ih]
      rfl

/-- A dispatcher that is gone takes no more turns. -/
theorem takeAll_gone {d : SharedDispatcher σ α} (gone : d.dispatcher = .gone) (n : Nat) :
    (machine hand).takeAll d (List.replicate n .dispatch) = (d, []) := by
  induction n with
  | zero => rfl
  | succ n ih =>
      rw [List.replicate_succ, Machine.takeAll, take_idle (.inl gone)]
      show (((machine hand).takeAll d _).1, _) = _
      rw [ih]
      rfl

/-- When nobody else moves, the dispatcher comes to what `dispatchAll` says: it leaves, or it
waits for more. -/
theorem takeAll_alone (items : List (QueueItem α)) (s : σ) :
    ((machine hand).takeAll ⟨⟨items⟩, .waiting, s⟩
        (List.replicate (2 * items.length + 1) .dispatch)).1 =
      { queue := ⟨(dispatchAll hand s items).rest⟩
        dispatcher := if (dispatchAll hand s items).hasEnded then .gone else .waiting
        state := (dispatchAll hand s items).state } := by
  induction items generalizing s with
  | nil => rfl
  | cons item items ih =>
      cases item with
      | endOfStream =>
          show ((machine hand).takeAll ⟨⟨items⟩, .gone, s⟩ (List.replicate _ _)).1 = _
          rw [takeAll_gone rfl]
          rfl
      | data a =>
          have turns : 2 * (items.length + 1) + 1 = 2 * items.length + 1 + 1 + 1 := by
            rw [Nat.mul_succ]
          rw [List.length_cons, turns, List.replicate_succ, List.replicate_succ]
          exact ih (hand s a).2

/-! ## Up to the marker -/

theorem exists_front {items : List (QueueItem α)} (marked : .endOfStream ∈ items) :
    ∃ (front : List α) (behind : List (QueueItem α)),
      items = front.map .data ++ .endOfStream :: behind := by
  induction items with
  | nil => cases marked
  | cons item items ih =>
      cases item with
      | endOfStream => exact ⟨[], items, rfl⟩
      | data a =>
          obtain ⟨front, behind, rfl⟩ := ih ((List.mem_cons.mp marked).resolve_left nofun)
          exact ⟨a :: front, behind, rfl⟩

/-- What has come of the data in front of the marker and of the items behind it. -/
structure UpToMarker (front : List α) (behind : List (QueueItem α)) (seen : List (Event α))
    (d : SharedDispatcher σ α) : Prop where
  /-- The data is handed on in order, each item once. -/
  inOrder : handedOf seen <+: front
  /-- Each item is reported by what came of itself. -/
  reported : linesOf seen = (callsOf seen).flatMap (·.2.lines)
  /-- Nothing else is left out or handed on when the dispatcher leaves. -/
  complete : d.dispatcher = .gone → handedOf seen = front
  /-- The marker is gone then as well, and all behind it is there. -/
  left : d.dispatcher = .gone → d.queue.items = behind ++ pushedOf seen

/-- **A dispatcher hands on exactly what stands in front of the first marker**, in order and each
item once, and leaves what is behind it, however handing on ends and whatever other threads do
meanwhile.  It leaves at the latest in its turn after two turns for each item.  If nobody else
moves, the items work on what those before them have left, and the marker ends it. -/
theorem hands_on_up_to_marker (hand : σ → α → Handing × σ) (s : σ) {items : List (QueueItem α)}
    (marked : .endOfStream ∈ items) :
    ∃ (front : List α) (behind : List (QueueItem α)),
      items = front.map .data ++ .endOfStream :: behind ∧
      (∀ turns, let r := (machine hand).takeAll ⟨⟨items⟩, .waiting, s⟩ turns
        UpToMarker front behind r.2 r.1 ∧
          (2 * front.length + 1 ≤ turns.countP (·.isDispatch) → r.1.dispatcher = .gone)) ∧
      dispatchAll hand s items =
        { state := front.foldl (fun s a => (hand s a).2) s
          rest := behind
          hasEnded := true
          lines := (handings hand s front).flatMap Handing.lines } := by
  obtain ⟨front, behind, rfl⟩ := exists_front marked
  refine ⟨front, behind, rfl, ?_, dispatchAll_eq front behind s⟩
  intro turns r
  let d : SharedDispatcher σ α := ⟨⟨front.map .data ++ .endOfStream :: behind⟩, .waiting, s⟩
  have begun : Came front behind [] d (2 * front.length + 1) :=
    .waiting rfl rfl (congrArg (_ ++ .endOfStream :: ·) (List.append_nil behind).symm)
  have came : Came front behind r.2 r.1 _ := begun.takeAll hand turns
  have reported : linesOf r.2 = _ := linesOf_takeAll d turns
  refine ⟨⟨came.inOrder, reported, fun gone => (came.of_gone gone).1,
    fun gone => (came.of_gone gone).2⟩, fun enough => ?_⟩
  rw [Nat.sub_eq_zero_of_le enough] at came
  exact came.gone_of_zero

/-- Handing on is cut off at the first item and refused at the second; a marker and an item are
pushed meanwhile. -/
theorem hands_on_up_to_marker_crash :
    let hand : Nat → Nat → Handing × Nat := fun calls _ =>
      (if calls = 0 then .crashed (some "submit failed")
        else if calls = 1 then .refused else .accepted, calls + 1)
    let items : List (QueueItem Nat) :=
      [.data 0, .data 1, .data 2, .endOfStream, .data 3, .endOfStream]
    let turns : List (Turn Nat Nat) :=
      [.dispatch, .push (.data 4), .dispatch, .dispatch, .dispatch, .change id, .dispatch,
        .dispatch, .push .endOfStream, .dispatch, .dispatch]
    let r := (machine hand).takeAll ⟨⟨items⟩, .waiting, 0⟩ turns
    .endOfStream ∈ items ∧ r.1.dispatcher = .gone ∧ handedOf r.2 = [0, 1, 2] ∧
      ∃ front behind, items = front.map .data ++ .endOfStream :: behind ∧ handedOf r.2 = front ∧
        r.1.queue.items = behind ++ [.data 4, .endOfStream] := by
  intro hand items turns r
  have marked : .endOfStream ∈ items := by decide
  have gone : r.1.dispatcher = .gone := rfl
  obtain ⟨front, behind, split, all, -⟩ := hands_on_up_to_marker hand 0 marked
  exact ⟨marked, gone, rfl, front, behind, split, (all turns).1.complete gone,
    (all turns).1.left gone⟩

end SharedDispatcher

/-! ## The dispatcher of a pipeline -/

namespace Pipeline

variable {σ : Type}

/-- What the dispatcher of a pipeline sees: the queue, and the pool that it hands frames to. -/
def dispatching (p : Pipeline σ) : SharedDispatcher (Pool Frame) Frame :=
  ⟨p.queue, p.dispatcher, p.pool⟩

/-- A turn of the dispatcher, as it is seen of a pipeline. -/
def dispatchEvents : SharedDispatcher.Event Frame → List Event
  | .handed frame handing => [if handing = .accepted then .handed frame else .dropped frame]
  | .ended => [.ended]
  | .reported line => [.reported line]
  | .pushed _ => []

/-- The dispatcher of a pipeline takes the turns of a dispatcher between threads. -/
theorem dispatch?_eq (p : Pipeline σ) :
    p.dispatch? = (p.dispatching.dispatch? hand).map fun (d, seen) =>
      ({ p with queue := d.queue, dispatcher := d.dispatcher, pool := d.state },
        seen.flatMap dispatchEvents) := by
  have doing : p.dispatching.dispatcher = p.dispatcher := rfl
  have queue : p.dispatching.queue = p.queue := rfl
  rw [dispatch?, SharedDispatcher.dispatch?, doing]
  cases p.dispatcher with
  | waiting =>
      show p.fetch? = p.dispatching.fetch?.map _
      rw [fetch?, SharedDispatcher.fetch?, queue]
      rcases p.queue.pop? with _ | ⟨_ | _, rest⟩ <;> rfl
  | holding frame =>
      refine congrArg (fun seen => some (_, _ :: seen)) ?_
      show reports _ = List.flatMap dispatchEvents (List.map _ _)
      rw [List.flatMap_map]
      exact List.map_eq_flatMap
  | gone => rfl
  | absent => rfl

end Pipeline

end PacketWatch
