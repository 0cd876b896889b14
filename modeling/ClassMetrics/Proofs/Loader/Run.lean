import ClassMetrics.Proofs.Graph.WellFormed
import ClassMetrics.Proofs.ClassFile.Levels

/-! Loading steps run on a loader. A step is a function from a loader to an outcome and the
loader it leaves, and a failure keeps what was done before it. Every step keeps the loader
valid (a well-formed graph, and outcomes decoded ahead that are those of the source's bytes)
and only moves it forward: the source and the classes to analyse stay, and the graph grows.
`Load.Run` says this of one run together with a property of its value, and the rules below
compose it through binds, maps and folds. -/

namespace ClassMetrics

open ClassFile StructuralGraph

variable {α β γ : Type}

/-- The run of a loading step from a loader: its outcome and the loader it leaves. -/
def Load.exec (x : Load α) (p : Loader) : Except AnalysisError α × Loader := x.run.run p

namespace Load

@[simp] theorem exec_pure (a : α) (p : Loader) : (pure a : Load α).exec p = (.ok a, p) := rfl

theorem exec_bind (x : Load α) (f : α → Load β) (p : Loader) :
    (x >>= f).exec p = match x.exec p with
      | (.ok a, p') => (f a).exec p'
      | (.error e, p') => (.error e, p') := by
  simp only [Load.exec, ExceptT.run_bind]
  show (StateT.bind _ _).run p = _
  simp only [StateT.bind, StateT.run]
  rcases h : x.run p with ⟨r | r, p'⟩ <;> rfl

@[simp] theorem exec_get (p : Loader) : (get : Load Loader).exec p = (.ok p, p) := rfl

@[simp] theorem exec_set (p p' : Loader) : (set p' : Load PUnit).exec p = (.ok ⟨⟩, p') := rfl

@[simp] theorem exec_modify (f : Loader → Loader) (p : Loader) :
    (modify f : Load PUnit).exec p = (.ok ⟨⟩, f p) := rfl

@[simp] theorem exec_modifyGet (f : Loader → α × Loader) (p : Loader) :
    (modifyGet f : Load α).exec p = (.ok (f p).1, (f p).2) := rfl

@[simp] theorem exec_ofExcept (r : Except AnalysisError α) (p : Loader) :
    (MonadExcept.ofExcept r : Load α).exec p = (r, p) := by
  cases r <;> rfl

end Load

namespace Loader

/-- A loader is valid when its graph is well formed and every outcome decoded ahead is what
the source's bytes for that name decode to at the recorded level. -/
structure Valid (p : Loader) : Prop where
  graph : p.graph.WellFormed
  prefetched : ∀ e ∈ p.prefetched, ∃ bytes, p.source.resolve e.1 = some bytes ∧
    e.2.2 = ClassInfo.decode bytes e.2.1

/-- `p'` comes after `p`: the same source and classes to analyse, a graph grown out of `p`'s,
and still valid. -/
structure Later (p p' : Loader) : Prop where
  source_eq : p'.source = p.source
  analyzable_eq : p'.analyzable = p.analyzable
  graph : p.graph.Extends p'.graph
  valid : p'.Valid

theorem Later.refl {p : Loader} (h : p.Valid) : Later p p :=
  ⟨rfl, rfl, Extends.refl _, h⟩

theorem Later.trans {p p' p'' : Loader} (h₁ : Later p p') (h₂ : Later p' p'') : Later p p'' :=
  ⟨h₂.source_eq.trans h₁.source_eq, h₂.analyzable_eq.trans h₁.analyzable_eq,
    h₁.graph.trans h₂.graph, h₂.valid⟩

theorem later_withGraph {p : Loader} {g : StructuralGraph} (hp : p.Valid) (hg : g.WellFormed)
    (hext : p.graph.Extends g) : Later p { p with graph := g } :=
  ⟨rfl, rfl, hext, ⟨hg, hp.prefetched⟩⟩

end Loader

/-- A run of `x` from `p` leaves a later valid loader, and a success's value satisfies `Q` in
the loader it leaves. -/
def Load.Run (x : Load α) (p : Loader) (Q : α → Loader → Prop) : Prop :=
  Loader.Later p (x.exec p).2 ∧ ∀ a, (x.exec p).1 = .ok a → Q a (x.exec p).2

namespace Load.Run

variable {p : Loader}

theorem pure {Q : α → Loader → Prop} {a : α} (hp : p.Valid) (h : Q a p) :
    (Pure.pure a : Load α).Run p Q :=
  ⟨Loader.Later.refl hp, fun b hb => by cases hb; exact h⟩

theorem bind {x : Load α} {f : α → Load β} {Q : α → Loader → Prop} {Q' : β → Loader → Prop}
    (hx : x.Run p Q) (hf : ∀ a p', Loader.Later p p' → Q a p' → (f a).Run p' Q') :
    (x >>= f).Run p Q' := by
  obtain ⟨hlater, hq⟩ := hx
  unfold Run
  rw [exec_bind]
  rcases h : x.exec p with ⟨r, p'⟩
  rw [h] at hlater hq
  cases r with
  | error e => exact ⟨hlater, fun a ha => by cases ha⟩
  | ok a =>
    obtain ⟨hlater', hq'⟩ := hf a p' hlater (hq a rfl)
    exact ⟨hlater.trans hlater', hq'⟩

theorem mono {x : Load α} {Q Q' : α → Loader → Prop} (hx : x.Run p Q)
    (h : ∀ a p', Loader.Later p p' → Q a p' → Q' a p') : x.Run p Q' :=
  ⟨hx.1, fun a ha => h a _ hx.1 (hx.2 a ha)⟩

theorem and {x : Load α} {Q Q' : α → Loader → Prop} (h : x.Run p Q) (h' : x.Run p Q') :
    x.Run p fun a p' => Q a p' ∧ Q' a p' :=
  ⟨h.1, fun a ha => ⟨h.2 a ha, h'.2 a ha⟩⟩

theorem get (hp : p.Valid) : (get : Load Loader).Run p fun p' p'' => p' = p ∧ p'' = p :=
  ⟨Loader.Later.refl hp, fun _ ha => by cases ha; exact ⟨rfl, rfl⟩⟩

theorem map {x : Load α} {f : α → β} {Q : β → Loader → Prop} (hx : x.Run p fun a => Q (f a)) :
    (f <$> x).Run p Q := by
  rw [map_eq_pure_bind]
  exact bind hx fun a _ hlater hq => pure hlater.valid hq

theorem foldlM {step : γ → β → Load γ} {I : γ → Loader → Prop} (bs : List β)
    (hstep : ∀ acc p, p.Valid → I acc p → ∀ b ∈ bs, (step acc b).Run p I) :
    ∀ acc p, p.Valid → I acc p → (bs.foldlM step acc).Run p I := by
  induction bs with
  | nil => exact fun acc p hp hi => pure hp hi
  | cons b bs ih =>
    intro acc p hp hi
    rw [List.foldlM_cons]
    refine bind (hstep acc p hp hi b (List.mem_cons_self ..)) fun acc' p' hlater hi' => ?_
    exact ih (fun acc p hp hi b hb => hstep acc p hp hi b (List.mem_cons_of_mem _ hb))
      acc' p' hlater.valid hi'

end Load.Run

end ClassMetrics
