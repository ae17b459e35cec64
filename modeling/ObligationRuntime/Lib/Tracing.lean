/-
  ObligationRuntime.Lib.Tracing — runs of a graph that are told to an observer.

  A `Probe` is told when a node begins, when it has answered, and when it has raised; each
  time it logs something of its own, and it may raise itself.  `Graph.traced` puts a probe
  around every node.  The two logs are kept in one, so their order is not lost.

  What a node that answers has done is lost if the probe raises then: the exception of the
  probe is taken for one of the node.

  Main results:
    * `traced_runFrom_quiet` — a probe that does not raise leaves a run as it is, and logs the
      spans of the nodes, one after another,
    * `traced_runFrom` — whatever the probe does, a run is as without it, or it was stopped by
      the probe on the way,
    * `traced_runFrom_last` — a probe that raises when the last node has answered.
-/
import ObligationRuntime.Lib.Flow

namespace Flow

/-! ## §1. Effects with two logs. -/

namespace Eff

variable {C D E α : Type}

/-- The same computation, with its calls renamed. -/
def mapCalls (f : C → D) (x : Eff C E α) : Eff D E α := ⟨x.calls.map f, x.result⟩

@[simp] theorem mapCalls_calls (f : C → D) (x : Eff C E α) :
    (x.mapCalls f).calls = x.calls.map f := rfl

@[simp] theorem mapCalls_result (f : C → D) (x : Eff C E α) :
    (x.mapCalls f).result = x.result := rfl

/-- A computation, and what is done about its exception. -/
def tryCatch (x : Eff C E α) (handle : E → Eff C E α) : Eff C E α :=
  match x.result with
  | .ok a => ⟨x.calls, .ok a⟩
  | .error e => ⟨x.calls ++ (handle e).calls, (handle e).result⟩

/-- Where nothing raises nothing is caught, -/
theorem tryCatch_of_ok {x : Eff C E α} {a : α} (h : x.result = .ok a)
    (handle : E → Eff C E α) : x.tryCatch handle = ⟨x.calls, .ok a⟩ := by
  simp [tryCatch, h]

/-- and else the handler goes on. -/
theorem tryCatch_of_error {x : Eff C E α} {e : E} (h : x.result = .error e)
    (handle : E → Eff C E α) :
    x.tryCatch handle = ⟨x.calls ++ (handle e).calls, (handle e).result⟩ := by
  simp [tryCatch, h]

/-- `enter`; then `body` and `leave`, and where one of the two raises, `raised`, after which
the exception goes on. -/
def bracketed (enter : Eff D E Unit) (body : Eff C E α) (leave : α → Eff D E Unit)
    (raised : E → Eff D E Unit) : Eff (C ⊕ D) E α := do
  enter.mapCalls Sum.inr
  tryCatch
    (do
      let out ← body.mapCalls Sum.inl
      (leave out).mapCalls Sum.inr
      return out)
    fun e => do
      (raised e).mapCalls Sum.inr
      lift (.error e)

section

variable {enter : Eff D E Unit} {body : Eff C E α} {leave : α → Eff D E Unit}
  {raised : E → Eff D E Unit}

/-- Nothing is done where `enter` raises. -/
theorem bracketed_of_enter {e : E} (h : enter.result = .error e) :
    bracketed enter body leave raised = ⟨enter.calls.map Sum.inr, .error e⟩ :=
  bind_of_error (x := enter.mapCalls Sum.inr) h _

/-- The body answers, and so does `leave`. -/
theorem bracketed_of_ok {a : α} (he : enter.result = .ok ()) (hb : body.result = .ok a)
    (hl : (leave a).result = .ok ()) :
    bracketed enter body leave raised =
      ⟨enter.calls.map Sum.inr ++ (body.calls.map Sum.inl ++ (leave a).calls.map Sum.inr),
        .ok a⟩ := by
  have hbody : (do
      let out ← body.mapCalls (Sum.inl : C → C ⊕ D)
      (leave out).mapCalls Sum.inr
      return out) =
        (⟨body.calls.map Sum.inl ++ (leave a).calls.map Sum.inr, .ok a⟩ : Eff _ E α) := by
    rw [bind_of_ok (x := body.mapCalls Sum.inl) hb, bind_of_ok (x := (leave a).mapCalls Sum.inr) hl]
    simp
  rw [bracketed, bind_of_ok (x := enter.mapCalls Sum.inr) he, hbody, tryCatch_of_ok rfl]
  rfl

/-- The body answers, and `leave` raises. -/
theorem bracketed_of_leave {a : α} {e : E} (he : enter.result = .ok ())
    (hb : body.result = .ok a) (hl : (leave a).result = .error e) :
    bracketed enter body leave raised =
      ⟨enter.calls.map Sum.inr ++ (body.calls.map Sum.inl ++ (leave a).calls.map Sum.inr ++
        (raised e).calls.map Sum.inr),
        (raised e).result.bind fun _ => .error e⟩ := by
  have hbody : (do
      let out ← body.mapCalls (Sum.inl : C → C ⊕ D)
      (leave out).mapCalls Sum.inr
      return out) =
        (⟨body.calls.map Sum.inl ++ (leave a).calls.map Sum.inr, .error e⟩ : Eff _ E α) := by
    rw [bind_of_ok (x := body.mapCalls Sum.inl) hb,
      bind_of_error (x := (leave a).mapCalls Sum.inr) hl]
    rfl
  rw [bracketed, bind_of_ok (x := enter.mapCalls Sum.inr) he, hbody, tryCatch_of_error rfl]
  cases hr : (raised e).result with
  | ok u =>
      rw [bind_of_ok (x := (raised e).mapCalls Sum.inr) hr]
      simp [Except.bind]
  | error e' =>
      rw [bind_of_error (x := (raised e).mapCalls Sum.inr) hr]
      simp [Except.bind]

/-- The body raises. -/
theorem bracketed_of_body {e : E} (he : enter.result = .ok ()) (hb : body.result = .error e) :
    bracketed enter body leave raised =
      ⟨enter.calls.map Sum.inr ++ (body.calls.map Sum.inl ++ (raised e).calls.map Sum.inr),
        (raised e).result.bind fun _ => .error e⟩ := by
  have hbody : (do
      let out ← body.mapCalls (Sum.inl : C → C ⊕ D)
      (leave out).mapCalls Sum.inr
      return out) = (⟨body.calls.map Sum.inl, .error e⟩ : Eff _ E α) :=
    bind_of_error (x := body.mapCalls Sum.inl) hb _
  rw [bracketed, bind_of_ok (x := enter.mapCalls Sum.inr) he, hbody, tryCatch_of_error rfl]
  cases hr : (raised e).result with
  | ok u =>
      rw [bind_of_ok (x := (raised e).mapCalls Sum.inr) hr]
      simp [Except.bind]
  | error e' =>
      rw [bind_of_error (x := (raised e).mapCalls Sum.inr) hr]
      simp [Except.bind]

end

end Eff

/-! ## §2. Probes. -/

/-- What an observer of nodes `N` does: logs of type `D`, exceptions of type `E`. -/
structure Probe (N S U D E : Type) where
  enter : N → S → Eff D E Unit
  leave : N → S → U → Eff D E Unit
  raised : N → S → E → Eff D E Unit

namespace Probe

variable {N S U C D E : Type} (p : Probe N S U D E)

/-- The probe does not raise at a node of a graph. -/
structure Quiet (g : Graph N S U C E) (n : N) (s : S) : Prop where
  enter : (p.enter n s).result = .ok ()
  leave : ∀ u, (g.handler n s).result = .ok u → (p.leave n s u).result = .ok ()
  raised : ∀ e, (g.handler n s).result = .error e → (p.raised n s e).result = .ok ()

/-- The probe raises an exception at a node of a graph. -/
def Raises (g : Graph N S U C E) (n : N) (s : S) (e : E) : Prop :=
  (p.enter n s).result = .error e ∨
    (∃ u, (g.handler n s).result = .ok u ∧ (p.leave n s u).result = .error e) ∨
    ∃ e', (p.raised n s e').result = .error e

/-- What the probe logs at the end of a node. -/
def ending (n : N) (s : S) : Except E U → List D
  | .ok u => (p.leave n s u).calls
  | .error e => (p.raised n s e).calls

/-- The span of a node: what is logged from its beginning to its end. -/
def span (g : Graph N S U C E) (x : N × S) : List (C ⊕ D) :=
  (p.enter x.1 x.2).calls.map Sum.inr ++ ((g.handler x.1 x.2).calls.map Sum.inl ++
    (p.ending x.1 x.2 (g.handler x.1 x.2).result).map Sum.inr)

end Probe

/-- The calls of a log. -/
def ownCalls {C D : Type} (log : List (C ⊕ D)) : List C := log.filterMap Sum.getLeft?

/-- What the probe has logged. -/
def probeCalls {C D : Type} (log : List (C ⊕ D)) : List D := log.filterMap Sum.getRight?

section

variable {C D : Type}

@[simp] theorem ownCalls_append (l m : List (C ⊕ D)) :
    ownCalls (l ++ m) = ownCalls l ++ ownCalls m := List.filterMap_append

@[simp] theorem probeCalls_append (l m : List (C ⊕ D)) :
    probeCalls (l ++ m) = probeCalls l ++ probeCalls m := List.filterMap_append

@[simp] theorem ownCalls_inl (cs : List C) : ownCalls (cs.map (.inl : C → C ⊕ D)) = cs := by
  simp [ownCalls, List.filterMap_map, Function.comp_def]

@[simp] theorem ownCalls_inr (ds : List D) : ownCalls (ds.map (.inr : D → C ⊕ D)) = [] := by
  simp [ownCalls, List.filterMap_map, Function.comp_def]

@[simp] theorem probeCalls_inl (cs : List C) : probeCalls (cs.map (.inl : C → C ⊕ D)) = [] := by
  simp [probeCalls, List.filterMap_map, Function.comp_def]

@[simp] theorem probeCalls_inr (ds : List D) : probeCalls (ds.map (.inr : D → C ⊕ D)) = ds := by
  simp [probeCalls, List.filterMap_map, Function.comp_def]

end

/-! ## §3. Traced graphs. -/

namespace Graph

variable {N S U C D E : Type}

/-- The graph, with a probe around every node. -/
def traced (g : Graph N S U C E) (p : Probe N S U D E) : Graph N S U (C ⊕ D) E where
  handler n s := Eff.bracketed (p.enter n s) (g.handler n s) (p.leave n s) (p.raised n s)
  merge := g.merge
  edge := g.edge
  limitExceeded := g.limitExceeded

variable {g : Graph N S U C E} {p : Probe N S U D E}

/-- **A quiet probe** leaves what a node answers, and logs its span. -/
theorem traced_handler_quiet {n : N} {s : S} (h : p.Quiet g n s) :
    (g.traced p).handler n s = ⟨p.span g (n, s), (g.handler n s).result⟩ := by
  cases hr : (g.handler n s).result with
  | ok u =>
      show Eff.bracketed _ _ _ _ = _
      rw [Eff.bracketed_of_ok h.enter hr (h.leave u hr)]
      simp [Probe.span, Probe.ending, hr]
  | error e =>
      show Eff.bracketed _ _ _ _ = _
      rw [Eff.bracketed_of_body h.enter hr, h.raised e hr]
      simp [Probe.span, Probe.ending, hr, Except.bind]

/-- What a probe can make of a node: its answer and its calls, or an exception of the probe
after some of its calls. -/
theorem traced_handler_cases (g : Graph N S U C E) (p : Probe N S U D E) (n : N) (s : S) :
    (((g.traced p).handler n s).result = (g.handler n s).result ∧
        ownCalls ((g.traced p).handler n s).calls = (g.handler n s).calls) ∨
      ∃ e, ((g.traced p).handler n s).result = .error e ∧ p.Raises g n s e ∧
        ownCalls ((g.traced p).handler n s).calls <+: (g.handler n s).calls := by
  show ((Eff.bracketed _ _ _ _).result = _ ∧ ownCalls (Eff.bracketed _ _ _ _).calls = _) ∨
    ∃ e, (Eff.bracketed _ _ _ _).result = .error e ∧ _ ∧
      ownCalls (Eff.bracketed _ _ _ _).calls <+: _
  cases he : (p.enter n s).result with
  | error e =>
      -- The node was not begun.
      right
      rw [Eff.bracketed_of_enter he]
      exact ⟨e, rfl, .inl he, by simp⟩
  | ok _ =>
      cases hb : (g.handler n s).result with
      | error e =>
          rw [Eff.bracketed_of_body he hb]
          cases hr : (p.raised n s e).result with
          | ok _ =>
              left
              simp [Except.bind]
          | error e' =>
              right
              exact ⟨e', rfl, .inr (.inr ⟨e, hr⟩), by simp⟩
      | ok u =>
          cases hl : (p.leave n s u).result with
          | ok _ =>
              left
              rw [Eff.bracketed_of_ok he hb hl]
              simp
          | error e =>
              right
              rw [Eff.bracketed_of_leave he hb hl]
              cases hr : (p.raised n s e).result with
              | ok _ => exact ⟨e, rfl, .inr (.inl ⟨u, hb, hl⟩), by simp⟩
              | error e' => exact ⟨e', rfl, .inr (.inr ⟨e, hr⟩), by simp⟩

/-- The node has answered, and the edge raises. -/
theorem hop_of_edge {n : N} {s : S} {u : U} {e : E} (h : (g.handler n s).result = .ok u)
    (he : g.edge n (g.merge s u) = .error e) :
    g.hop n s = ⟨(g.handler n s).calls, s, .error e⟩ := by
  simp [hop, h, he]

/-- The hop of a node that answers as it would without the probe. -/
theorem traced_hop_of_result {n : N} {s : S}
    (h : ((g.traced p).handler n s).result = (g.handler n s).result) :
    (g.traced p).hop n s =
      ⟨((g.traced p).handler n s).calls, (g.hop n s).state, (g.hop n s).next⟩ := by
  cases hr : (g.handler n s).result with
  | error e =>
      rw [hop_of_raise (h.trans hr), hop_of_raise hr]
  | ok u =>
      cases he : g.edge n (g.merge s u) with
      | ok m => rw [hop_of_ok (h.trans hr) he, hop_of_ok hr he]; rfl
      | error e => rw [hop_of_edge (h.trans hr) he, hop_of_edge hr he]

end Graph

/-! ## §4. The nodes of a run. -/

namespace Graph

variable {N S U C D E : Type} {g : Graph N S U C E} {p : Probe N S U D E}

section Ranked

variable {rank : N → Nat}

/-- The nodes of a run, up to the last: each of the others has led to the next. -/
theorem visited_split (falls : ∀ n s m, (g.hop n s).next = .ok (some m) → rank m < rank n) :
    ∀ (k : Nat) (n : N) (s : S), rank n < k →
      ∃ before x, (g.runFrom k n s).visited = before ++ [x] ∧
        (∀ y ∈ before, ∃ m, (g.hop y.1 y.2).next = .ok (some m)) ∧
        (g.runFrom k n s).state = (g.hop x.1 x.2).state ∧
        ((∃ e, (g.hop x.1 x.2).next = .error e ∧ (g.runFrom k n s).error = some e) ∨
          ((g.hop x.1 x.2).next = .ok none ∧ (g.runFrom k n s).error = none))
  | 0, _, _, hk => absurd hk (Nat.not_lt_zero _)
  | k + 1, n, s, hk => by
      cases hn : (g.hop n s).next with
      | error e =>
          rw [runFrom_of_error hn]
          exact ⟨[], (n, s), rfl, by simp, rfl, .inl ⟨e, hn, rfl⟩⟩
      | ok m =>
          cases m with
          | none =>
              rw [runFrom_of_end hn]
              exact ⟨[], (n, s), rfl, by simp, rfl, .inr ⟨hn, rfl⟩⟩
          | some m =>
              have hlt := falls n s m hn
              obtain ⟨before, x, hvisited, hbefore, hstate, hend⟩ :=
                visited_split falls k m (g.hop n s).state (by omega)
              rw [runFrom_of_next hn]
              refine ⟨(n, s) :: before, x, by rw [hvisited]; rfl, ?_, hstate, hend⟩
              intro y hy
              rcases List.mem_cons.mp hy with rfl | hy
              · exact ⟨m, hn⟩
              · exact hbefore y hy

/-- No node is visited twice. -/
theorem visited_pairwise
    (falls : ∀ n s m, (g.hop n s).next = .ok (some m) → rank m < rank n) :
    ∀ (k : Nat) (n : N) (s : S),
      (g.runFrom k n s).visited.Pairwise fun x y => rank y.1 < rank x.1
  | 0, _, _ => .nil
  | k + 1, n, s => by
      cases hn : (g.hop n s).next with
      | error e =>
          rw [runFrom_of_error hn]
          exact List.pairwise_singleton _ _
      | ok m =>
          cases m with
          | none =>
              rw [runFrom_of_end hn]
              exact List.pairwise_singleton _ _
          | some m =>
              rw [runFrom_of_next hn]
              refine List.pairwise_cons.mpr ⟨fun y hy => ?_, visited_pairwise falls k m _⟩
              have hlt := falls n s m hn
              rcases visited_rank falls k m _ y hy with rfl | hy
              · exact hlt
              · exact Nat.lt_trans hy hlt

end Ranked

/-- The calls of a run are those of the nodes it visited. -/
theorem runFrom_calls (g : Graph N S U C E) (k : Nat) (n : N) (s : S) :
    (g.runFrom k n s).calls =
      (g.runFrom k n s).visited.flatMap fun x => (g.handler x.1 x.2).calls := by
  induction k generalizing n s with
  | zero => rfl
  | succ k ih =>
      cases hn : (g.hop n s).next with
      | error e => simp [runFrom_of_error hn]
      | ok m =>
          cases m with
          | none => simp [runFrom_of_end hn]
          | some m => simp [runFrom_of_next hn, ih m]

/-! ## §5. Traced runs. -/

/-- **A quiet probe leaves a run as it is**: its log is the spans of the nodes that were
visited, one after another. -/
theorem traced_runFrom_quiet (k : Nat) (n : N) (s : S)
    (h : ∀ x ∈ (g.runFrom k n s).visited, p.Quiet g x.1 x.2) :
    (g.traced p).runFrom k n s =
      ⟨(g.runFrom k n s).state, (g.runFrom k n s).visited.flatMap (p.span g),
        (g.runFrom k n s).visited, (g.runFrom k n s).error⟩ := by
  induction k generalizing n s with
  | zero => rfl
  | succ k ih =>
      have hquiet : p.Quiet g n s := by
        refine h (n, s) ?_
        cases hn : (g.hop n s).next with
        | error e => simp [runFrom_of_error hn]
        | ok m => cases m <;> simp [runFrom, hn]
      have hnode := traced_handler_quiet (g := g) hquiet
      have hhop := traced_hop_of_result (g := g) (p := p) (congrArg Eff.result hnode)
      rw [hnode] at hhop
      cases hn : (g.hop n s).next with
      | error e =>
          rw [runFrom_of_error hn, runFrom_of_error (by rw [hhop]; exact hn), hhop]
          simp
      | ok m =>
          cases m with
          | none =>
              rw [runFrom_of_end hn, runFrom_of_end (by rw [hhop]; exact hn), hhop]
              simp
          | some m =>
              have hrest := ih m (g.hop n s).state fun x hx =>
                h x (by rw [runFrom_of_next hn]; exact List.mem_cons_of_mem _ hx)
              rw [runFrom_of_next hn, runFrom_of_next (by rw [hhop]; exact hn), hhop, hrest]
              simp

/-- The probe has cut a run short: the run has come as far as a node, whose update is lost. -/
structure CutShort (g : Graph N S U C E) (p : Probe N S U D E) (traced : Run N S (C ⊕ D) E)
    (plain : Run N S C E) : Prop where
  visited : traced.visited <+: plain.visited
  calls : ownCalls traced.calls <+: plain.calls
  stopped : ∃ n s e, traced.visited.getLast? = some (n, s) ∧ traced.state = s ∧
    traced.error = some e ∧ p.Raises g n s e

/-- The run is as without the probe. -/
structure Undisturbed (traced : Run N S (C ⊕ D) E) (plain : Run N S C E) : Prop where
  state : traced.state = plain.state
  visited : traced.visited = plain.visited
  error : traced.error = plain.error
  calls : ownCalls traced.calls = plain.calls

/-- **Whatever the probe does**, the run is as without it, or was stopped by it. -/
theorem traced_runFrom (g : Graph N S U C E) (p : Probe N S U D E) (k : Nat) (n : N) (s : S) :
    Undisturbed ((g.traced p).runFrom k n s) (g.runFrom k n s) ∨
      CutShort g p ((g.traced p).runFrom k n s) (g.runFrom k n s) := by
  induction k generalizing n s with
  | zero => exact .inl ⟨rfl, rfl, rfl, rfl⟩
  | succ k ih =>
      rcases traced_handler_cases g p n s with ⟨hres, hcalls⟩ | ⟨e, he, hraises, hcalls⟩
      · have hhop := traced_hop_of_result hres
        cases hn : (g.hop n s).next with
        | error e =>
            left
            rw [runFrom_of_error hn, runFrom_of_error (by rw [hhop]; exact hn), hhop]
            exact ⟨rfl, rfl, rfl, by simpa using hcalls⟩
        | ok m =>
            cases m with
            | none =>
                left
                rw [runFrom_of_end hn, runFrom_of_end (by rw [hhop]; exact hn), hhop]
                exact ⟨rfl, rfl, rfl, by simpa using hcalls⟩
            | some m =>
                rw [runFrom_of_next hn, runFrom_of_next (by rw [hhop]; exact hn), hhop]
                -- The rest of the run decides which of the two it is.
                rcases ih m (g.hop n s).state with hrest | hrest
                · left
                  exact ⟨hrest.state, by simp [hrest.visited], hrest.error,
                    by simp [hcalls, hrest.calls]⟩
                · right
                  obtain ⟨n', t, e, hlast, hstate, herror, hraises⟩ := hrest.stopped
                  refine ⟨List.cons_prefix_cons.mpr ⟨rfl, hrest.visited⟩, ?_,
                    n', t, e, ?_, hstate, herror, hraises⟩
                  · simp only [ownCalls_append, hcalls, hop_calls]
                    exact (List.prefix_append_right_inj _).mpr hrest.calls
                  · rw [List.getLast?_cons, hlast]
                    rfl
      · -- The probe raised here.
        right
        have hraise : (g.traced p).hop n s = ⟨_, s, .error e⟩ := hop_of_raise he
        rw [runFrom_of_error (by rw [hraise]), hraise]
        refine ⟨?_, ?_, n, s, e, rfl, rfl, rfl, hraises⟩
        · cases hn : (g.hop n s).next with
          | error e => simp [runFrom_of_error hn]
          | ok m => cases m <;> simp [runFrom, hn]
        · cases hn : (g.hop n s).next with
          | error e => simpa [runFrom_of_error hn] using hcalls
          | ok m =>
              cases m with
              | none => simpa [runFrom_of_end hn] using hcalls
              | some m =>
                  rw [runFrom_of_next hn]
                  exact (by simpa using hcalls : ownCalls _ <+: (g.hop n s).calls).trans
                    (List.prefix_append _ _)

/-- A run with fuel visits the node it starts at. -/
theorem visited_head (g : Graph N S U C E) (k : Nat) (n : N) (s : S) :
    ∃ rest, (g.runFrom (k + 1) n s).visited = (n, s) :: rest := by
  cases hn : (g.hop n s).next with
  | error e => exact ⟨[], by rw [runFrom_of_error hn]⟩
  | ok m =>
      cases m with
      | none => exact ⟨[], by rw [runFrom_of_end hn]⟩
      | some m => exact ⟨_, by rw [runFrom_of_next hn]⟩

/-- The calls of a run that visited one node are the calls of the node. -/
theorem calls_of_single {k : Nat} {n : N} {s : S} {x : N × S}
    (h : (g.runFrom (k + 1) n s).visited = [x]) :
    x = (n, s) ∧ (g.runFrom (k + 1) n s).calls = (g.handler n s).calls := by
  cases hn : (g.hop n s).next with
  | error e =>
      rw [runFrom_of_error hn] at h ⊢
      exact ⟨(List.cons.inj h).1.symm, hop_calls n s⟩
  | ok m =>
      cases m with
      | none =>
          rw [runFrom_of_end hn] at h ⊢
          exact ⟨(List.cons.inj h).1.symm, hop_calls n s⟩
      | some m =>
          rw [runFrom_of_next hn] at h ⊢
          obtain ⟨hx, hrest⟩ := List.cons.inj h
          -- The run went on and visited nothing: it had no fuel left.
          cases k with
          | zero => exact ⟨hx.symm, by simp [runFrom]⟩
          | succ k =>
              obtain ⟨rest, hvisited⟩ := visited_head g k m (g.hop n s).state
              rw [hvisited] at hrest
              cases hrest

/-- **A probe that raises when the last node has answered**: the run has made all its calls,
and the update of the node is lost. -/
theorem traced_runFrom_last {x : N × S} {u : U} {e : E} (hx : (g.handler x.1 x.2).result = .ok u)
    (henter : (p.enter x.1 x.2).result = .ok ()) (hleave : (p.leave x.1 x.2 u).result = .error e)
    (hraised : (p.raised x.1 x.2 e).result = .ok ()) :
    ∀ (k : Nat) (n : N) (s : S) (before : List (N × S)),
      (g.runFrom k n s).visited = before ++ [x] → (∀ y ∈ before, p.Quiet g y.1 y.2) →
        ((g.traced p).runFrom k n s).state = x.2 ∧
          ((g.traced p).runFrom k n s).error = some e ∧
          ownCalls ((g.traced p).runFrom k n s).calls = (g.runFrom k n s).calls ∧
          (p.raised x.1 x.2 e).calls.map Sum.inr <:+ ((g.traced p).runFrom k n s).calls
  | 0, n, s, before, h, _ => by simp [runFrom] at h
  | k + 1, n, s, [], h, _ => by
      obtain ⟨rfl, hcalls⟩ := calls_of_single h
      have hnode : (g.traced p).handler n s = _ := Eff.bracketed_of_leave henter hx hleave
      have hresult : ((g.traced p).handler n s).result = .error e := by
        rw [hnode, hraised]
        rfl
      have hraise := hop_of_raise hresult
      rw [runFrom_of_error (by rw [hraise]), hraise, hcalls, hnode]
      refine ⟨rfl, rfl, by simp, ?_⟩
      show _ <:+ _ ++ (_ ++ _)
      rw [← List.append_assoc]
      exact List.suffix_append _ _
  | k + 1, n, s, y :: before, h, hquiet => by
      obtain ⟨rest, hhead⟩ := visited_head g k n s
      obtain rfl : y = (n, s) := by
        rw [h] at hhead
        exact (List.cons.inj hhead).1
      have hnode := traced_handler_quiet (hquiet (n, s) List.mem_cons_self)
      have hhop := traced_hop_of_result (g := g) (p := p) (congrArg Eff.result hnode)
      rw [hnode] at hhop
      cases hn : (g.hop n s).next with
      | error e => simp [runFrom_of_error hn] at h
      | ok m =>
          cases m with
          | none => simp [runFrom_of_end hn] at h
          | some m =>
              rw [runFrom_of_next hn] at h
              obtain ⟨hstate, herror, hcalls, hraise⟩ :=
                traced_runFrom_last hx henter hleave hraised k m (g.hop n s).state before
                  (List.cons.inj h).2 fun y hy => hquiet y (List.mem_cons_of_mem _ hy)
              rw [runFrom_of_next hn, runFrom_of_next (by rw [hhop]; exact hn), hhop]
              exact ⟨hstate, herror, by simp [hcalls, Probe.span],
                hraise.trans (List.suffix_append _ _)⟩

end Graph

end Flow
