import OrderedChoice.Proofs.Parser.Answers

/-!
# Sequencing

There are many ways to run parsers one behind the other: binding, pairs, the
operators that keep one side or join both, flat tuples, and bodies whose steps
all require a value.  They thread offsets and merge diagnostics each in a way of
its own, but as answers all of them are binds.  So they agree wherever they say
the same, and grouping makes no difference.
-/

namespace OrderedChoice.Parser

variable {R : Type → Type} {α β γ δ ε ζ : Type}

section

variable {rules : Rules R} {fuel : Nat} {source : Source}

@[simp] theorem answers_andThen (first : Parser R α) (second : Parser R β) :
    (first.andThen second).answers rules fuel source =
      first.answers rules fuel source >>= fun _ =>
        second.answers rules fuel source := by
  simp [andThen]

@[simp] theorem answers_skip (first : Parser R α) (second : Parser R β) :
    (first.skip second).answers rules fuel source =
      first.answers rules fuel source >>= fun left =>
        second.answers rules fuel source >>= fun _ => pure left := by
  simp [skip]

end

/-- Joining values by an associative function can be grouped either way. -/
theorem join_assoc {join : α → α → α}
    (assoc : ∀ left middle right,
      join (join left middle) right = join left (join middle right))
    (first second third : Parser R α) :
    Interchangeable
      (.map (fun values => join values.1 values.2)
        (.both (.map (fun values => join values.1 values.2)
          (.both first second)) third))
      (.map (fun values => join values.1 values.2)
        (.both first (.map (fun values => join values.1 values.2)
          (.both second third)))) := by
  apply interchangeable_of_answers
  intro rules fuel source
  simp [assoc]

/--
The ways of sequencing agree.  Binding is associative and has the success that
consumes nothing as its unit on both sides; mapping is binding to such a
success; a pair is the same whether it is run as one, bound, or made by a body;
so is a flat tuple of up to six; and the operators that keep one side, or join
texts or lists, can be grouped either way.
-/
theorem sequences_interchangeable (value : α) (p : Parser R α)
    (q : Parser R β) (r : Parser R γ) (s : Parser R δ) (t : Parser R ε)
    (u : Parser R ζ) (f : α → Parser R β) (g : β → Parser R γ) (h : α → β)
    (text text' text'' : Parser R String)
    (list list' list'' : Parser R (List α)) :
    Interchangeable (.bind (success value) f) (f value) ∧
    Interchangeable (.bind p success) p ∧
    Interchangeable (.bind (.bind p f) g) (.bind p fun a => .bind (f a) g) ∧
    Interchangeable (.map h p) (.bind p fun a => success (h a)) ∧
    Interchangeable (.both p q) (.bind p fun a => .map (fun b => (a, b)) q) ∧
    Interchangeable (.both p q)
      (.generate <| .require p fun a => .require q fun b => .done (a, b)) ∧
    Interchangeable (seq1 p) (.generate <| .require p .done) ∧
    Interchangeable (seq2 p q)
      (.generate <| .require p fun a => .require q fun b => .done (a, b)) ∧
    Interchangeable (seq3 p q r)
      (.generate <| .require p fun a => .require q fun b => .require r fun c =>
        .done (a, b, c)) ∧
    Interchangeable (seq4 p q r s)
      (.generate <| .require p fun a => .require q fun b => .require r fun c =>
        .require s fun d => .done (a, b, c, d)) ∧
    Interchangeable (seq5 p q r s t)
      (.generate <| .require p fun a => .require q fun b => .require r fun c =>
        .require s fun d => .require t fun e => .done (a, b, c, d, e)) ∧
    Interchangeable (seq6 p q r s t u)
      (.generate <| .require p fun a => .require q fun b => .require r fun c =>
        .require s fun d => .require t fun e => .require u fun i =>
          .done (a, b, c, d, e, i)) ∧
    Interchangeable ((p.andThen q).andThen r) (p.andThen (q.andThen r)) ∧
    Interchangeable ((p.skip q).skip r) (p.skip (q.andThen r)) ∧
    Interchangeable ((p.andThen q).skip r) (p.andThen (q.skip r)) ∧
    Interchangeable (appendText (appendText text text') text'')
      (appendText text (appendText text' text'')) ∧
    Interchangeable (appendList (appendList list list') list'')
      (appendList list (appendList list' list'')) := by
  have joinTexts :=
    join_assoc (fun _ _ _ => String.append_assoc) text text' text''
  have joinLists := join_assoc List.append_assoc list list' list''
  refine ⟨?_, ?_, ?_, ?_, ?_, ?_, ?_, ?_, ?_, ?_, ?_, ?_, ?_, ?_, ?_,
    joinTexts, joinLists⟩
  -- As answers, both sides are one chain of binds, up to the monad laws.
  all_goals
    apply interchangeable_of_answers
    intro rules fuel source
    simp [seq1, seq2, seq3, seq4, seq5, seq6]

end OrderedChoice.Parser
