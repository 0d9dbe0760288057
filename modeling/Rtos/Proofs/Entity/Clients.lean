import Rtos.Proofs.Entity.Toppling

/-!
# Clients of an arena

A client of an arena creates entities, takes references on them, and drops references that it has.  It
never drops its own one on the root.  Such a client meets with the arena that it would expect
(`Client.Lawful`), whatever it asks for and in which order (`Client.lawful_of_play`): counts are those
of the references that there are, entities go when nobody refers to them any more and not before, and
only two requests can fail.  A reference on a slot that was freed is not to be had, and no counter
counts beyond the last word (`Client.play_faults`).
-/

namespace Rtos

/-- An arena, the state that clean-ups run on, and the references that a client has. -/
structure Client (δ σ : Type) where
  /-- The arena. -/
  tree : EntityTree δ
  /-- The state. -/
  state : σ
  /-- An entry for every reference. -/
  held : List EntityId

namespace Client

/-- What a client may ask of an arena. -/
inductive Request (δ : Type)
  /-- Create an entity, with a reference for the client. -/
  | create (parent : Option EntityId) (owner : Owner) (cleanup : Option δ)
  /-- Take another reference. -/
  | retain (id : EntityId)
  /-- Drop a reference. -/
  | release (id : EntityId)

/-- The entity that a request takes a reference on, besides the one that it creates. -/
def Request.subject? {δ : Type} : Request δ → Option EntityId
  | .create parent _ _ => parent
  | .retain id => some id
  | .release _ => none

variable {δ σ : Type} {destroy : δ → Owner → σ → σ} {c c' : Client δ σ} {request : Request δ}
  {requests : List (Request δ)} {result : Except Error EntityId} {id : EntityId} {n : Nat} {s : σ}

/-- The client of a new arena has the reference on the root. -/
def new (s : σ) : Client δ σ :=
  ⟨.new, s, [.root]⟩

/-- A client may drop every reference that it has, but for its own one on the root. -/
def Permits (c : Client δ σ) : Request δ → Prop
  | .release id => id ∈ c.held.erase .root
  | _ => True

instance (c : Client δ σ) : DecidablePred c.Permits
  | .release id => inferInstanceAs (Decidable (id ∈ c.held.erase .root))
  | .create _ _ _ | .retain _ => inferInstanceAs (Decidable True)

/-- What a request comes to: the entity that it was about, or the reason why it was refused. The
clean-up with a given tag runs as `destroy` says. -/
def step (destroy : δ → Owner → σ → σ) (c : Client δ σ) :
    Request δ → Checked (Except Error EntityId × Client δ σ)
  | .create parent owner cleanup => do
    match ← c.tree.create parent owner cleanup with
    | .ok (id, tree) => return (.ok id, { c with tree, held := id :: c.held })
    | .error e => return (.error e, c)
  | .retain id => do
    let tree ← c.tree.retain id
    return (.ok id, { c with tree, held := id :: c.held })
  | .release id => do
    let (tree, state) ← c.tree.release (fun tag owner s => .ok (destroy tag owner s)) id c.state
    return (.ok id, ⟨tree, state, c.held.erase id⟩)

/-- A client makes requests one after the other, and leaves out those that it may not make. -/
def play (destroy : δ → Owner → σ → σ) (c : Client δ σ) : List (Request δ) → Checked (Client δ σ)
  | [] => .ok c
  | request :: requests =>
    if c.Permits request then do
      let (_, c) ← c.step destroy request
      play destroy c requests
    else
      play destroy c requests

/-! ## What a request comes to -/

/-- Creating an entity, or taking a reference, comes to one of these. -/
inductive Grows (c : Client δ σ) : Except Error EntityId → Client δ σ → Prop
  /-- The creation is refused. -/
  | refused {parent : Option EntityId} {owner : Owner} {cleanup : Option δ} {e : Error}
      (create : c.tree.create parent owner cleanup = .ok (.error e)) : Grows c (.error e) c
  /-- There is a new entity. -/
  | created {p id : EntityId} {e : Entity δ} {owner : Owner} {tag : δ}
      (found : c.tree.get? p = some e) (free : c.tree.get? id = none) :
      Grows c (.ok id) ⟨c.tree.addChild p e id owner tag, c.state, id :: c.held⟩
  /-- There is another reference on an entity. -/
  | retained {id : EntityId} {e : Entity δ} (found : c.tree.get? id = some e) :
      Grows c (.ok id) ⟨c.tree.setCount id e (e.count.value + 1), c.state, id :: c.held⟩

/-- Every request but a release is a case of `Grows`. -/
theorem grows_of_step (kind : ∀ id, request ≠ .release id)
    (step : c.step destroy request = .ok (result, c')) : c.Grows result c' := by
  cases request with
  | create parent owner cleanup =>
    obtain ⟨created, create, eq⟩ := Checked.bind_eq_ok.1 step
    cases created with
    | error e =>
      cases eq
      exact .refused create
    | ok created =>
      obtain ⟨id, tree⟩ := created
      obtain ⟨p, e, tag, -, -, found, free, rfl⟩ := EntityTree.create_eq_ok create
      cases eq
      exact .created found free
  | retain id =>
    obtain ⟨tree, retained, eq⟩ := Checked.bind_eq_ok.1 step
    obtain ⟨e, found, rfl⟩ := EntityTree.retain_eq_ok retained
    cases eq
    exact .retained found
  | release id => exact absurd rfl (kind id)

/-- A request that creates an entity or takes a reference removes nothing. -/
theorem Grows.spares (h : c.Grows result c') :
    c'.state = c.state ∧ ∀ id, c.tree.isLive id = true → c'.tree.isLive id = true := by
  simp only [EntityTree.isLive_iff]
  cases h with
  | refused => exact ⟨rfl, fun _ live => live⟩
  | created found free =>
    refine ⟨rfl, fun x ⟨o, owned⟩ => ⟨o, ?_⟩⟩
    exact EntityTree.owner?_addChild_of_some found free owned
  | retained found =>
    refine ⟨rfl, fun x ⟨o, owned⟩ => ⟨o, ?_⟩⟩
    rw [EntityTree.owner?_setCount found, owned]

/-- A refused request changes nothing.  Memory is short only if every slot is occupied. -/
theorem step_refused {e : Error} (step : c.step destroy request = .ok (.error e, c')) :
    c' = c ∧ (e = .outOfMemory → ∀ id, c.tree.isLive id = true) := by
  have kind (id : EntityId) : request ≠ .release id := by
    rintro rfl
    obtain ⟨_, -, eq⟩ := Checked.bind_eq_ok.1 step
    cases eq
  cases grows_of_step kind step with
  | refused create =>
    refine ⟨rfl, ?_⟩
    rintro rfl
    exact EntityTree.live_of_outOfMemory create

/-- A creation or a further reference is answered, unless the entity in question is gone or has as many
references as can be counted. -/
theorem step_ends (kind : ∀ id, request ≠ .release id) :
    (∃ out, c.step destroy request = .ok out) ∨
    (∃ id, request = .retain id ∧ c.tree.get? id = none ∧
      c.step destroy request = .error (.freedEntity id)) ∨
    ∃ id e, request.subject? = some id ∧ c.tree.get? id = some e ∧
      Word.limit ≤ e.count.value + 1 ∧ c.step destroy request = .error .addOverflow := by
  cases request with
  | create parent owner cleanup =>
    rcases c.tree.create_ends parent owner cleanup with create | ⟨p, e, above, found, full, create⟩
    · refine .inl (Checked.bind_total create fun created _ => ?_)
      cases created with
      | error e => exact ⟨_, rfl⟩
      | ok created => exact ⟨_, rfl⟩
    · refine .inr (.inr ⟨p, e, above, found, full, ?_⟩)
      rw [step, create]
      rfl
  | retain id =>
    cases found : c.tree.get? id with
    | none =>
      refine .inr (.inl ⟨id, rfl, found, ?_⟩)
      rw [step, EntityTree.retain_of_free found]
      rfl
    | some e =>
      rcases Nat.lt_or_ge (e.count.value + 1) Word.limit with fits | full
      · exact .inl (Checked.bind_total ⟨_, EntityTree.retain_of_fits found fits⟩
          fun _ _ => ⟨_, rfl⟩)
      · refine .inr (.inr ⟨id, e, rfl, found, full, ?_⟩)
        rw [step, EntityTree.retain_of_full found full]
        rfl
  | release id => exact absurd rfl (kind id)

/-! ## What a client has -/

/-- The references in the arena are those of the client and of children, and the client has that on
the root. -/
structure Sound (c : Client δ σ) : Prop where
  /-- There are no other references. -/
  upheld : c.tree.Upheld c.held
  /-- The client has the one on the root. -/
  own : .root ∈ c.held

namespace Sound

theorem new (s : σ) : (new s : Client δ σ).Sound :=
  ⟨EntityTree.upheld_new, List.mem_cons_self⟩

/-- A client keeps the reference on the root. -/
theorem own_erase (h : c.Sound) (allowed : c.Permits (.release id)) : .root ∈ c.held.erase id := by
  by_cases root : id = .root
  · subst root
    exact allowed
  · exact (List.mem_erase_of_ne (Ne.symm root)).2 h.own

/-- Dropping a reference topples the entities that nobody else refers to. -/
theorem release (destroy : δ → Owner → σ → σ) (h : c.Sound) (allowed : c.Permits (.release id)) :
    ∃ gone kept tree, c.tree.Topples id gone kept ∧ c.tree.Toppled gone kept tree ∧
      tree.Upheld (c.held.erase id) ∧ c.step destroy (.release id) =
        .ok (.ok id, ⟨tree, gone.foldl (fun s f => destroy f.tag f.owner s) c.state,
          c.held.erase id⟩) := by
  have mem : id ∈ c.held := List.mem_of_mem_erase allowed
  have upheld : c.tree.Upheld (id :: c.held.erase id) :=
    h.upheld.perm (List.perm_cons_erase mem)
  obtain ⟨gone, kept, tree, topples, toppled, upheld, released⟩ :=
    upheld.release destroy c.state (h.own_erase allowed)
  refine ⟨gone, kept, tree, topples, toppled, upheld, ?_⟩
  rw [Client.step, released]
  rfl

/-- A client knows of every reference that it takes. -/
theorem grows (h : c.Sound) (grows : c.Grows result c') : c'.Sound := by
  cases grows with
  | refused => exact h
  | created found free =>
    exact ⟨h.upheld.addChild found free, List.mem_cons_of_mem _ h.own⟩
  | retained found => exact ⟨h.upheld.retain found, List.mem_cons_of_mem _ h.own⟩

/-- Whatever a client may ask for, it knows of all references behind it. -/
theorem step (h : c.Sound) (allowed : c.Permits request)
    (step : c.step destroy request = .ok (result, c')) : c'.Sound := by
  cases request with
  | create | retain =>
    refine h.grows (grows_of_step ?_ step)
    nofun
  | release id =>
    obtain ⟨gone, kept, tree, -, -, upheld, released⟩ := h.release destroy allowed
    cases step.symm.trans released
    exact ⟨upheld, h.own_erase allowed⟩

theorem play (h : c.Sound) (run : c.play destroy requests = .ok c') : c'.Sound := by
  induction requests generalizing c with
  | nil =>
    cases run
    exact h
  | cons request requests ih =>
    unfold Client.play at run
    split at run
    case isTrue allowed =>
      obtain ⟨⟨result, c₁⟩, step, run⟩ := Checked.bind_eq_ok.1 run
      exact ih (h.step allowed step) run
    case isFalse => exact ih h run

end Sound

/-! ## What a client meets with -/

/-- What a client can rely on. -/
structure Lawful (destroy : δ → Owner → σ → σ) (c : Client δ σ) : Prop where
  /-- The count of an entity is that of the client's references on it and of its children. -/
  counted : ∀ {id e}, c.tree.get? id = some e →
    e.count.value = c.held.count id + c.tree.childCount id
  /-- What the client has a reference on is live. -/
  usable : ∀ id ∈ c.held, c.tree.isLive id = true
  /-- Parents are live. -/
  parents : ∀ {id p}, c.tree.parent? id = some p → c.tree.isLive p = true
  /-- The way up leads to the root. -/
  rooted : ∀ {id}, c.tree.isLive id = true → c.tree.Within id .root
  /-- Dropping a reference removes the entities that lose their last one by it, from the bottom up,
  and runs the clean-up of each.  The client has no reference on any of them. -/
  released : ∀ id, c.Permits (.release id) → ∃ gone kept tree,
    c.step destroy (.release id) =
      .ok (.ok id, ⟨tree, gone.foldl (fun s f => destroy f.tag f.owner s) c.state,
        c.held.erase id⟩) ∧
    c.tree.Topples id gone kept ∧ c.tree.Toppled gone kept tree ∧
    ∀ f ∈ gone, f.id ∉ c.held.erase id
  /-- No other request removes anything. -/
  spared : ∀ {request result c'}, (∀ id, request ≠ .release id) →
    c.step destroy request = .ok (result, c') →
    c'.state = c.state ∧ ∀ id, c.tree.isLive id = true → c'.tree.isLive id = true
  /-- A refused request changes nothing.  Memory is short only if every slot is occupied. -/
  refused : ∀ {request e c'}, c.step destroy request = .ok (.error e, c') →
    c' = c ∧ (e = .outOfMemory → ∀ id, c.tree.isLive id = true)
  /-- All that the client may ask for is answered, but for a reference on a free slot, and for one
  that is one too many to be counted. -/
  ends : ∀ request, c.Permits request → (∃ out, c.step destroy request = .ok out) ∨
    (∃ id, request = .retain id ∧ c.tree.get? id = none ∧
      c.step destroy request = .error (.freedEntity id)) ∨
    ∃ id e, request.subject? = some id ∧ c.tree.get? id = some e ∧
      Word.limit ≤ e.count.value + 1 ∧ c.step destroy request = .error .addOverflow

/-- A client that knows of all references can rely on the arena. -/
theorem Sound.lawful (h : c.Sound) : c.Lawful destroy where
  counted found := h.upheld.count found
  usable id mem := Option.isSome_iff_exists.2 (h.upheld.live_of_mem mem)
  parents parent := Option.isSome_iff_exists.2 (h.upheld.live_of_parent parent)
  rooted live := h.upheld.within_root live
  released id allowed := by
    obtain ⟨gone, kept, tree, topples, toppled, upheld, released⟩ := h.release destroy allowed
    exact ⟨gone, kept, tree, released, topples, toppled,
      fun f mem => upheld.not_mem (toppled.removed f mem)⟩
  spared kind step := (grows_of_step kind step).spares
  refused step := step_refused step
  ends request allowed := by
    cases request with
    | create | retain => exact step_ends nofun
    | release id =>
      obtain ⟨gone, kept, tree, -, -, -, released⟩ := h.release destroy allowed
      exact .inl ⟨_, released⟩

/-- After whatever a client of a new arena has asked for, it can rely on the arena. -/
theorem lawful_of_play (run : (new s).play destroy requests = .ok c) : c.Lawful destroy :=
  ((Sound.new s).play run).lawful

/-- A client that holds on to an event about a device alone: when it lets go of the event, the
device's entity goes too, behind that of the event. -/
theorem lawful_of_play_device : ∃ c : Client Unit (List Owner),
    (new []).play (fun _ o log => log ++ [o])
      [.create (some .root) (.device 0) (some ()), .create (some 1) .event (some ()),
        .release 1] = .ok c ∧
    (c.held = [2, .root] ∧ c.tree.count? 1 = some 1 ∧
      (c.step (fun _ o log => log ++ [o]) (.release 2)).toOption.any fun out =>
        out.2.state = [.event, .device 0] ∧ out.2.tree = .new) ∧
    c.Lawful (fun _ o log => log ++ [o]) := by
  have seen : ((new []).play (fun _ o log => log ++ [o])
      [.create (some .root) (.device 0) (some ()), .create (some 1) .event (some ()),
        .release 1]).toOption.any (fun c : Client Unit (List Owner) =>
    c.held = [2, .root] ∧ c.tree.count? 1 = some 1 ∧
      (c.step (fun _ o log => log ++ [o]) (.release 2)).toOption.any fun out =>
        out.2.state = [.event, .device 0] ∧ out.2.tree = .new) = true := by
    decide +kernel
  obtain ⟨c, run, seen⟩ := Checked.exists_of_any seen
  exact ⟨c, run, of_decide_eq_true seen, lawful_of_play run⟩

/-! ## What a client must not ask for -/

/-- A client takes as many references on an entity as can be counted. -/
theorem play_retain {e : Entity δ} (destroy : δ → Owner → σ → σ)
    (found : c.tree.get? id = some e) (fits : e.count.value + n < Word.limit) :
    ∃ c' e', c.play destroy (List.replicate n (.retain id)) = .ok c' ∧
      c'.tree.get? id = some e' ∧ e'.count.value = e.count.value + n := by
  induction n generalizing c e with
  | zero => exact ⟨c, e, rfl, found, rfl⟩
  | succ n ih =>
    have one : e.count.value + 1 < Word.limit := by omega
    have allowed : c.Permits (.retain id) := trivial
    have counted : (c.tree.setCount id e (e.count.value + 1)).get? id =
        some { e with count := ⟨e.count.value + 1⟩ } := by
      rw [EntityTree.get?_setCount, if_pos rfl]
    obtain ⟨c', e', run, found', value⟩ :=
      ih (c := ⟨c.tree.setCount id e (e.count.value + 1), c.state, id :: c.held⟩) counted
        (by dsimp only; omega)
    refine ⟨c', e', ?_, found', value.trans (Nat.succ_add_eq_add_succ _ _)⟩
    rw [List.replicate_succ, play, if_pos allowed, step, EntityTree.retain_of_fits found one]
    exact run

/-- Two things that a client may ask for stop it: a reference on an entity that is gone, and the one
after the last that can be counted. -/
theorem play_faults :
    (∃ c : Client Unit (List Owner),
      (new []).play (fun _ o log => log ++ [o])
        [.create (some .root) .event (some ()), .release 1] = .ok c ∧
      c.Permits (.retain 1) ∧
      c.step (fun _ o log => log ++ [o]) (.retain 1) = .error (.freedEntity 1)) ∧
    ∃ c : Client Unit (List Owner),
      (new []).play (fun _ o log => log ++ [o])
        (List.replicate (Word.limit - 2) (.retain .root)) = .ok c ∧
      c.Permits (.retain .root) ∧
      c.step (fun _ o log => log ++ [o]) (.retain .root) = .error .addOverflow := by
  constructor
  · have seen : ((new []).play (fun _ o log => log ++ [o])
        [.create (some .root) .event (some ()), .release 1]).toOption.any
          (fun c : Client Unit (List Owner) => c.tree.get? 1 = none) = true := by
      decide +kernel
    obtain ⟨c, run, free⟩ := Checked.exists_of_any seen
    refine ⟨c, run, trivial, ?_⟩
    rw [step, EntityTree.retain_of_free (of_decide_eq_true free)]
    rfl
  · have root : (new ([] : List Owner)).tree.get? .root =
        some (⟨none, ⟨1⟩, .root, none⟩ : Entity Unit) := rfl
    obtain ⟨c, e, run, found, value⟩ := play_retain (c := new ([] : List Owner))
      (fun (_ : Unit) o log => log ++ [o]) (n := Word.limit - 2) root (by decide)
    refine ⟨c, run, trivial, ?_⟩
    rw [step, EntityTree.retain_of_full found (by rw [value]; decide)]
    rfl

end Client

end Rtos
