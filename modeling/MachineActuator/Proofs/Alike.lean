import Mathlib
import MachineActuator.Proofs.Course

/-! # Two courses compared

Of two courses that begin in environments alike, how alike are the results and the environments at
the end?  `Program.Alike` relates the completed courses of two programs, each in its own drifting
surroundings; it is composed like the programs are.  Where every effect is answered alike on both
sides (`Answers`), a program has the same result on both (`Program.Ensures.alike`). -/

namespace MachineActuator

/-- Drifting on either side cannot falsify the relation. -/
structure Kept (Drift : Environment → Environment → Prop)
    (R : Environment → Environment → Prop) : Prop where
  left : ∀ env₁ env₁' env₂, Drift env₁ env₁' → R env₁ env₂ → R env₁' env₂
  right : ∀ env₁ env₂ env₂', Drift env₂ env₂' → R env₁ env₂ → R env₁ env₂'

/-- In related environments the effects of this kind are answered alike, and leave environments that
are related again. -/
structure Answers (Drift : Environment → Environment → Prop) (E : Effect → Prop)
    (R : Environment → Environment → Prop) : Prop where
  kept : Kept Drift R
  answer : ∀ e env₁ env₂, E e → R env₁ env₂ →
    (Step.mk e env₁).answer = (Step.mk e env₂).answer ∧
      R (Step.mk e env₁).after (Step.mk e env₂).after

theorem Kept.of_drifts {Drift : Environment → Environment → Prop}
    {R : Environment → Environment → Prop} {env₁ env₁' env₂ env₂' : Environment}
    (hkept : Kept Drift R) (h₁ : Relation.ReflTransGen Drift env₁ env₁')
    (h₂ : Relation.ReflTransGen Drift env₂ env₂') (hR : R env₁ env₂) : R env₁' env₂' := by
  have hleft : R env₁' env₂ := by
    induction h₁ with
    | refl => exact hR
    | tail _ drift ih => exact hkept.left _ _ _ drift ih
  induction h₂ with
  | refl => exact hleft
  | tail _ drift ih => exact hkept.right _ _ _ drift ih

section Kept

variable {Drift : Environment → Environment → Prop} {E : Effect → Prop} {ι : Sort*}

theorem Kept.and (C : Prop) {R : Environment → Environment → Prop} (h : Kept Drift R) :
    Kept Drift fun env₁ env₂ => C ∧ R env₁ env₂ :=
  ⟨fun _ _ _ drift hR => ⟨hR.1, h.left _ _ _ drift hR.2⟩,
    fun _ _ _ drift hR => ⟨hR.1, h.right _ _ _ drift hR.2⟩⟩

theorem Kept.or {R R' : Environment → Environment → Prop} (h : Kept Drift R) (h' : Kept Drift R') :
    Kept Drift fun env₁ env₂ => R env₁ env₂ ∨ R' env₁ env₂ :=
  ⟨fun _ _ _ drift hR => hR.imp (h.left _ _ _ drift) (h'.left _ _ _ drift),
    fun _ _ _ drift hR => hR.imp (h.right _ _ _ drift) (h'.right _ _ _ drift)⟩

theorem Kept.exists {R : ι → Environment → Environment → Prop} (h : ∀ x, Kept Drift (R x)) :
    Kept Drift fun env₁ env₂ => ∃ x, R x env₁ env₂ :=
  ⟨fun _ _ _ drift ⟨x, hR⟩ => ⟨x, (h x).left _ _ _ drift hR⟩,
    fun _ _ _ drift ⟨x, hR⟩ => ⟨x, (h x).right _ _ _ drift hR⟩⟩

theorem Answers.and (C : Prop) {R : Environment → Environment → Prop} (h : Answers Drift E R) :
    Answers Drift E fun env₁ env₂ => C ∧ R env₁ env₂ :=
  ⟨h.kept.and C, fun e env₁ env₂ he hR =>
    ⟨(h.answer e env₁ env₂ he hR.2).1, hR.1, (h.answer e env₁ env₂ he hR.2).2⟩⟩

theorem Answers.exists {R : ι → Environment → Environment → Prop}
    (h : ∀ x, Answers Drift E (R x)) : Answers Drift E fun env₁ env₂ => ∃ x, R x env₁ env₂ :=
  ⟨.exists fun x => (h x).kept, fun e env₁ env₂ he ⟨x, hR⟩ =>
    ⟨((h x).answer e env₁ env₂ he hR).1, x, ((h x).answer e env₁ env₂ he hR).2⟩⟩

end Kept

namespace Program

variable {α β γ δ : Type} {Drift : Environment → Environment → Prop}
  {P P' : Environment → Environment → Prop} {Q Q' : α → β → Environment → Environment → Prop}
  {R : γ → δ → Environment → Environment → Prop}

/-- Any two courses of these programs that begin in environments related by `P` and come to an end
have results and environments related by `Q`. -/
def Alike (Drift : Environment → Environment → Prop) (P : Environment → Environment → Prop)
    (p : Program α) (q : Program β) (Q : α → β → Environment → Environment → Prop) : Prop :=
  ∀ env₁ env₂ steps₁ steps₂ a b env₁' env₂', P env₁ env₂ →
    Course Drift env₁ p steps₁ (.done a) env₁' → Course Drift env₂ q steps₂ (.done b) env₂' →
      Q a b env₁' env₂'

theorem Alike.of_courses {p : Program α} {q : Program β} {env₁ env₂ env₁' env₂' : Environment}
    {steps₁ steps₂ : List Step} {a : α} {b : β} (h : p.Alike Drift P q Q) (hP : P env₁ env₂)
    (h₁ : Course Drift env₁ p steps₁ (.done a) env₁')
    (h₂ : Course Drift env₂ q steps₂ (.done b) env₂') : Q a b env₁' env₂' :=
  h _ _ _ _ _ _ _ _ hP h₁ h₂

theorem Alike.of_imp {p : Program α} {q : Program β} (h : p.Alike Drift P q Q)
    (hP : ∀ env₁ env₂, P' env₁ env₂ → P env₁ env₂) : p.Alike Drift P' q Q :=
  fun env₁ env₂ _ _ _ _ _ _ hP' h₁ h₂ => h.of_courses (hP env₁ env₂ hP') h₁ h₂

theorem Alike.imp {p : Program α} {q : Program β} (h : p.Alike Drift P q Q)
    (hQ : ∀ a b env₁ env₂, Q a b env₁ env₂ → Q' a b env₁ env₂) : p.Alike Drift P q Q' :=
  fun _ _ _ _ _ _ _ _ hP h₁ h₂ => hQ _ _ _ _ (h.of_courses hP h₁ h₂)

theorem Alike.of_and {C : Prop} {p : Program α} {q : Program β} (h : C → p.Alike Drift P q Q) :
    p.Alike Drift (fun env₁ env₂ => C ∧ P env₁ env₂) q Q :=
  fun _ _ _ _ _ _ _ _ hP h₁ h₂ => (h hP.1).of_courses hP.2 h₁ h₂

theorem Alike.of_or {p : Program α} {q : Program β} (h : p.Alike Drift P q Q)
    (h' : p.Alike Drift P' q Q) : p.Alike Drift (fun env₁ env₂ => P env₁ env₂ ∨ P' env₁ env₂) q Q :=
  fun _ _ _ _ _ _ _ _ hP h₁ h₂ =>
    hP.elim (fun hP => h.of_courses hP h₁ h₂) fun hP => h'.of_courses hP h₁ h₂

theorem Alike.of_exists {ι : Sort*} {P : ι → Environment → Environment → Prop} {p : Program α}
    {q : Program β} (h : ∀ x, p.Alike Drift (P x) q Q) :
    p.Alike Drift (fun env₁ env₂ => ∃ x, P x env₁ env₂) q Q :=
  fun _ _ _ _ _ _ _ _ ⟨x, hP⟩ h₁ h₂ => (h x).of_courses hP h₁ h₂

theorem alike_pure {a : α} {b : β} (hkept : Kept Drift (Q a b))
    (h : ∀ env₁ env₂, P env₁ env₂ → Q a b env₁ env₂) :
    (pure a : Program α).Alike Drift P (pure b : Program β) Q := by
  intro env₁ env₂ _ _ a' b' env₁' env₂' hP h₁ h₂
  obtain ⟨-, ha, hdrift₁⟩ := Course.of_done h₁
  obtain ⟨-, hb, hdrift₂⟩ := Course.of_done h₂
  obtain rfl := Program.done.inj ha
  obtain rfl := Program.done.inj hb
  exact hkept.of_drifts hdrift₁ hdrift₂ (h _ _ hP)

theorem alike_effect {e₁ e₂ : Effect} {Q : e₁.Answer → e₂.Answer → Environment → Environment → Prop}
    (hP : Kept Drift P) (hQ : ∀ a b, Kept Drift (Q a b))
    (h : ∀ env₁ env₂, P env₁ env₂ → Q (Step.mk e₁ env₁).answer (Step.mk e₂ env₂).answer
      (Step.mk e₁ env₁).after (Step.mk e₂ env₂).after) :
    (effect e₁).Alike Drift P (effect e₂) Q := by
  intro env₁ env₂ _ _ a b env₁' env₂' hstart h₁ h₂
  obtain ⟨before₁, hbefore₁, -, rfl, hafter₁⟩ := h₁.of_effect
  obtain ⟨before₂, hbefore₂, -, rfl, hafter₂⟩ := h₂.of_effect
  exact (hQ _ _).of_drifts hafter₁ hafter₂ (h _ _ (hP.of_drifts hbefore₁ hbefore₂ hstart))

theorem Alike.bind {p : Program α} {q : Program β} {f : α → Program γ} {g : β → Program δ}
    (hp : p.Alike Drift P q Q) (hf : ∀ a b, (f a).Alike Drift (Q a b) (g b) R) :
    (p >>= f).Alike Drift P (q >>= g) R := by
  intro env₁ env₂ _ _ c d env₁' env₂' hP h₁ h₂
  obtain ⟨a, mid₁, early₁, late₁, -, hearly₁, hlate₁⟩ := h₁.bind_done
  obtain ⟨b, mid₂, early₂, late₂, -, hearly₂, hlate₂⟩ := h₂.bind_done
  exact (hf a b).of_courses (hp.of_courses hP hearly₁ hearly₂) hlate₁ hlate₂

variable {E : Effect → Prop} {T : α → Prop} {S : Environment → Environment → Prop}

/-- A program whose effects are all answered alike has the same result on both sides. -/
theorem Ensures.alike {p : Program α} (hE : Answers Drift E S) (hp : p.Ensures E T) :
    p.Alike Drift S p fun a b env₁ env₂ => a = b ∧ T a ∧ S env₁ env₂ := by
  intro env₁ env₂ steps₁ steps₂ a b env₁' env₂' hS h₁ h₂
  induction p generalizing env₁ env₂ steps₁ steps₂ with
  | done value =>
    obtain ⟨-, ha, hdrift₁⟩ := h₁.of_done
    obtain ⟨-, hb, hdrift₂⟩ := h₂.of_done
    obtain rfl := Program.done.inj ha
    obtain rfl := Program.done.inj hb
    exact ⟨rfl, hp, hE.kept.of_drifts hdrift₁ hdrift₂ hS⟩
  | perform e next ih =>
    obtain ⟨-, ha, -⟩ | ⟨before₁, rest₁, hbefore₁, rfl, hrest₁⟩ := h₁.of_perform
    · simp at ha
    obtain ⟨-, hb, -⟩ | ⟨before₂, rest₂, hbefore₂, rfl, hrest₂⟩ := h₂.of_perform
    · simp at hb
    obtain ⟨hanswer, hafter⟩ :=
      hE.answer e before₁ before₂ hp.1 (hE.kept.of_drifts hbefore₁ hbefore₂ hS)
    rw [← hanswer] at hrest₂
    exact ih _ (hp.2 _) _ _ _ _ hafter hrest₁ hrest₂

/-- After such a program the two sides go on with the same answer. -/
theorem Ensures.alike_bind {p : Program α} (hE : Answers Drift E S) (hp : p.Ensures E T)
    {f : α → Program γ} {g : α → Program δ} (hf : ∀ a, T a → (f a).Alike Drift S (g a) R) :
    (p >>= f).Alike Drift S (p >>= g) R := by
  refine (hp.alike hE).bind fun a b => ?_
  rintro env₁ env₂ _ _ c d env₁' env₂' ⟨rfl, hT, hS⟩ h₁ h₂
  exact (hf a hT).of_courses hS h₁ h₂

theorem Only.alike_bind {p : Program α} (hE : Answers Drift E S) (hp : p.Only E)
    {f : α → Program γ} {g : α → Program δ} (hf : ∀ a, (f a).Alike Drift S (g a) R) :
    (p >>= f).Alike Drift S (p >>= g) R :=
  Ensures.alike_bind hE hp fun a _ => hf a

end Program

end MachineActuator
