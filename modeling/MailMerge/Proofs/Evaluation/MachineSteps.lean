/-
# Steps of the machine

Some operations of a machine have a result for some operands only: a sum of words may overflow,
a divisor be zero, a place lie outside its sequence, a text be too long (`MachineStep.Safe`).
`Evaluation.Takes` tells which of them the evaluation of an expression takes without asking
first, in view of the values of its parts; `Evaluation.RenderTakes` those of a whole template.
Each of them stands behind a test that makes it safe (`Evaluation.Takes.safe`), with one
exception: a text is copied as often as an integer says, and nothing asks before whether the
copies fit (`Evaluation.Takes.eval_repetition`).  Where they do not, the program breaks down, and
this is the only way in which it does (`Environment.not_safe_of_crash`).
-/

import MailMerge.Proofs.Evaluation.Arithmetic
import MailMerge.Proofs.Evaluation.Points
import MailMerge.Proofs.Reading.Run

namespace MailMerge

open Number (Fits)

/-- A step of the machine that has a result for some operands only. -/
inductive MachineStep where
  /-- The sum of two words. -/
  | sum (x y : Int)
  /-- The difference of two words. -/
  | difference (x y : Int)
  /-- The difference of two lengths. -/
  | lengthDifference (m n : Nat)
  /-- The remainder of a division, which divides and so may overflow. -/
  | remainder (x y : Int)
  /-- The remainder of a division that may wrap. -/
  | wrappingRemainder (x y : Int)
  /-- The item at a place of a sequence. -/
  | item (length place : Nat)
  /-- What is left of a sequence from a place on. -/
  | tail (length start : Nat)
  /-- A text of some bytes, a number of times in a row. -/
  | copies (bytes times : Nat)
  deriving DecidableEq

namespace MachineStep

/-- Whether a step has a result. -/
def Safe : MachineStep → Prop
  | sum x y => Fits (x + y)
  | difference x y => Fits (x - y)
  | lengthDifference m n => n ≤ m
  | remainder x y => y ≠ 0 ∧ Fits (x.tdiv y)
  | wrappingRemainder _ y => y ≠ 0
  | item length place => place < length
  | tail length start => start ≤ length
  | copies bytes times => bytes * times ≤ 2 ^ 63 - 1

instance : (step : MachineStep) → Decidable step.Safe
  | sum x y => inferInstanceAs (Decidable (Fits (x + y)))
  | difference x y => inferInstanceAs (Decidable (Fits (x - y)))
  | lengthDifference m n => inferInstanceAs (Decidable (n ≤ m))
  | remainder x y => inferInstanceAs (Decidable (y ≠ 0 ∧ Fits (x.tdiv y)))
  | wrappingRemainder _ y => inferInstanceAs (Decidable (y ≠ 0))
  | item length place => inferInstanceAs (Decidable (place < length))
  | tail length start => inferInstanceAs (Decidable (start ≤ length))
  | copies bytes times => inferInstanceAs (Decidable (bytes * times ≤ 2 ^ 63 - 1))

/-- Whether the operands of a step are words.  What an evaluation adds are words that it has
computed, and the length of a sequence: no machine holds one with more items than a word can
count. -/
def OnWords : MachineStep → Prop
  | sum x y => Fits x ∧ Fits y
  | _ => True

end MachineStep

/-! ### Repeated texts -/

theorem utf8ByteSize_join_replicate (n : Nat) (s : String) :
    (String.join (List.replicate n s)).utf8ByteSize = s.utf8ByteSize * n := by
  induction n with
  | zero => rfl
  | succ n ih =>
    rw [List.replicate_succ, String.join_cons, String.utf8ByteSize_append, ih, Nat.mul_succ,
      Nat.add_comm]

/-- **The copies of a text have the bytes of all of them.** -/
theorem Operator.utf8ByteSize_copies (s : String) (times : Nat) :
    (Operator.copies s times).utf8ByteSize = s.utf8ByteSize * times := by
  rw [Operator.copies]
  split_ifs with hs
  · rw [String.isEmpty_iff.1 hs]
    exact (Nat.zero_mul _).symm
  · rw [Array.toList_replicate, utf8ByteSize_join_replicate]

theorem Operator.repetition_of_safe {s : String} {times : Nat}
    (h : (MachineStep.copies s.utf8ByteSize times).Safe) :
    Operator.repetition s times = pure (.str (Operator.copies s times)) := if_pos h

theorem Operator.repetition_of_not_safe {s : String} {times : Nat}
    (h : ¬(MachineStep.copies s.utf8ByteSize times).Safe) :
    Operator.repetition s times = throw (.crash s.utf8ByteSize times) := if_neg h

/-- The number of places of a value that has integers for subscripts. -/
def Value.places? : Value → Option Nat
  | .list items => some items.length
  | .str s => some (Value.chars s).length
  | _ => none

theorem Operator.lt_of_position? {n p : Nat} {i : Int64} (h : Operator.position? n i = some p) :
    p < n := by
  rw [Operator.position?] at h
  generalize (if i < 0 then (n : Int) + i.toInt else i.toInt) = z at h
  split_ifs at h with hz
  obtain rfl := Option.some.inj h
  omega

theorem Operator.lt_of_index_numeral {a : Access} {items : List Value} {s : String} {p : Nat}
    {v : Value} {m m' : Memory} (hp : Number.readNat? s.toList = some p)
    (h : Operator.index a (.list items) (.str s) m = .ok v m') : p < items.length := by
  by_contra hlength
  have hnone : items[p]? = none := List.getElem?_eq_none (Nat.not_lt.1 hlength)
  have hindex : Operator.index a (.list items) (.str s) =
      throw (.invalid (.indexOutOfBounds p)) := by
    simp only [Operator.index, hp, hnone]
  rw [hindex] at h
  cases h

namespace Evaluation

variable {env : Environment} {a : Access} {scopes : Scopes} {e : Expr} {m : Memory}
  {step : MachineStep}

/-- The steps that the evaluation of an expression takes for itself, without asking the machine
first whether they have a result. -/
inductive Takes (env : Environment) (a : Access) (scopes : Scopes) :
    Expr → Memory → MachineStep → Prop
  /-- A negative subscript counts from the end. -/
  | fromEnd {base subscript : Expr} {v : Value} {i : Int64} {n : Nat} {m m₁ m₂ : Memory} :
    eval env a scopes base m = .ok v m₁ → eval env a scopes subscript m₁ = .ok (.int i) m₂ →
    v.places? = some n → i < 0 → Takes env a scopes (.index base subscript) m (.sum n i.toInt)
  | place {base subscript : Expr} {v : Value} {i : Int64} {n p : Nat} {m m₁ m₂ : Memory} :
    eval env a scopes base m = .ok v m₁ → eval env a scopes subscript m₁ = .ok (.int i) m₂ →
    v.places? = some n → Operator.position? n i = some p →
    Takes env a scopes (.index base subscript) m (.item n p)
  /-- A place that is given as a text and found. -/
  | numeral {base subscript : Expr} {items : List Value} {s : String} {p : Nat} {v : Value}
    {m m₁ m₂ m' : Memory} :
    eval env a scopes base m = .ok (.list items) m₁ →
    eval env a scopes subscript m₁ = .ok (.str s) m₂ → Number.readNat? s.toList = some p →
    eval env a scopes (.index base subscript) m = .ok v m' →
    Takes env a scopes (.index base subscript) m (.item items.length p)
  /-- The arguments behind the pattern of a search, if it has a pattern. -/
  | selectors {subject : Expr} {label : String} {args : List Expr} {kwargs : List (String × Expr)}
    {v : Value} {vs : List Value} {ks : Dict Value} {m m₁ m₂ m₃ : Memory} :
    env.filter? label = some .patternSearch → eval env a scopes subject m = .ok v m₁ →
    evalArgs env a scopes args m₁ = .ok vs m₂ → evalKwargs env a scopes [] kwargs m₂ = .ok ks m₃ →
    eval env a scopes (.filter subject label args kwargs) m ≠
      .error (.invalid (.missingArgument "regex_search" 1)) m₃ →
    Takes env a scopes (.filter subject label args kwargs) m (.tail vs.length 1)
  | repetition {l r : Expr} {v w : Value} {s : String} {n : Int64} {m m₁ m₂ : Memory} :
    eval env a scopes l m = .ok v m₁ → eval env a scopes r m₁ = .ok w m₂ →
    v = .str s ∧ w = .int n ∨ v = .int n ∧ w = .str s →
    Takes env a scopes (.binary .mul l r) m (.copies s.utf8ByteSize n.toInt.toNat)
  /-- The rest that decides about the correction of a quotient. -/
  | quotient {l r : Expr} {x y : Int64} {m m₁ m₂ : Memory} :
    eval env a scopes l m = .ok (.int x) m₁ → eval env a scopes r m₁ = .ok (.int y) m₂ →
    eval env a scopes (.binary .floorDiv l r) m ≠ .error (.invalid .divisionByZero) m₂ →
    Takes env a scopes (.binary .floorDiv l r) m (.wrappingRemainder x.toInt y.toInt)
  | corrected {l r : Expr} {x y q : Int64} {m m₁ m₂ : Memory} :
    eval env a scopes l m = .ok (.int x) m₁ → eval env a scopes r m₁ = .ok (.int y) m₂ →
    eval env a scopes (.binary .floorDiv l r) m ≠ .error (.invalid .divisionByZero) m₂ →
    Number.fit? (x.toInt.tdiv y.toInt) = some q → x % y ≠ 0 → Number.signsDiffer x y = true →
    Takes env a scopes (.binary .floorDiv l r) m (.difference q.toInt 1)
  | rest {l r : Expr} {x y : Int64} {m m₁ m₂ : Memory} :
    eval env a scopes l m = .ok (.int x) m₁ → eval env a scopes r m₁ = .ok (.int y) m₂ →
    eval env a scopes (.binary .mod l r) m ≠ .error (.invalid .moduloByZero) m₂ →
    Takes env a scopes (.binary .mod l r) m (.wrappingRemainder x.toInt y.toInt)
  | correctedRest {l r : Expr} {x y : Int64} {m m₁ m₂ : Memory} :
    eval env a scopes l m = .ok (.int x) m₁ → eval env a scopes r m₁ = .ok (.int y) m₂ →
    x % y ≠ 0 → Number.signsDiffer (x % y) y = true →
    Takes env a scopes (.binary .mod l r) m (.sum (x % y).toInt y.toInt)
  | parity {subject : Expr} {label : String} {args : List Expr} {kwargs : List (String × Expr)}
    {negated : Bool} {test : ValueTest} {x : Int64} {m m₁ : Memory} :
    ValueTest.named? label = some test → test = .even ∨ test = .odd →
    eval env a scopes subject m = .ok (.int x) m₁ →
    Takes env a scopes (.test subject label args kwargs negated) m (.remainder x.toInt 2)
  | divisor {subject : Expr} {label : String} {args : List Expr} {kwargs : List (String × Expr)}
    {negated : Bool} {x y : Int64} {vs : List Value} {ks : Dict Value} {m m₁ m₂ m₃ : Memory} :
    ValueTest.named? label = some .divisibleBy → eval env a scopes subject m = .ok (.int x) m₁ →
    evalArgs env a scopes args m₁ = .ok (.int y :: vs) m₂ →
    evalKwargs env a scopes [] kwargs m₂ = .ok ks m₃ →
    eval env a scopes (.test subject label args kwargs negated) m ≠
      .error (.invalid .divisibleByZero) m₃ →
    Takes env a scopes (.test subject label args kwargs negated) m
      (.wrappingRemainder x.toInt y.toInt)

namespace Takes

/-- **A text is copied as often as an integer says,** and whether the copies fit is asked by
nothing but the copying itself. -/
theorem eval_repetition {bytes times : Nat}
    (h : Takes env a scopes e m (.copies bytes times)) :
    ∃ s m', s.utf8ByteSize = bytes ∧
      eval env a scopes e m = Operator.repetition s times m' := by
  cases h with
  | @repetition l r v w s n _ m₁ m₂ hl hr hvw =>
    have hmul : Operator.apply a .mul v w m₂ = Operator.repetition s n.toInt.toNat m₂ := by
      rcases hvw with ⟨rfl, rfl⟩ | ⟨rfl, rfl⟩ <;> rfl
    have hdefined : v.isUndefined = false ∧ w.isUndefined = false := by
      rcases hvw with ⟨rfl, rfl⟩ | ⟨rfl, rfl⟩ <;> exact ⟨rfl, rfl⟩
    exact ⟨s, m₂, rfl, (eval_binary hl hr hdefined.1 hdefined.2 .mul).trans hmul⟩

/-- Copies that fit are all there. -/
theorem copies_eq {bytes times : Nat} (h : Takes env a scopes e m (.copies bytes times))
    (hsafe : (MachineStep.copies bytes times).Safe) :
    ∃ t m', eval env a scopes e m = .ok (.str t) m' ∧ t.utf8ByteSize = bytes * times := by
  obtain ⟨s, m', rfl, hrun⟩ := h.eval_repetition
  rw [Operator.repetition_of_safe hsafe] at hrun
  exact ⟨_, m', hrun, Operator.utf8ByteSize_copies s times⟩

/-- Copies that do not fit are no value and no error: the program breaks down over them. -/
theorem crash_of_not_safe {bytes times : Nat}
    (h : Takes env a scopes e m (.copies bytes times))
    (hsafe : ¬(MachineStep.copies bytes times).Safe) :
    ∃ m', eval env a scopes e m = .error (.crash bytes times) m' := by
  obtain ⟨s, m', rfl, hrun⟩ := h.eval_repetition
  rw [Operator.repetition_of_not_safe hsafe] at hrun
  exact ⟨m', hrun⟩

/-- **Every other step is safe,** on words. -/
theorem safe (h : Takes env a scopes e m step) (hwords : step.OnWords)
    (hcopies : ∀ bytes times, step ≠ .copies bytes times) : step.Safe := by
  cases h with
  | @fromEnd _ _ _ i _ _ _ _ _ _ _ hi =>
    rw [MachineStep.OnWords, Number.fits_iff] at hwords
    have hbounds := Number.toInt_bounds i
    rw [Int64.lt_iff_toInt_lt, Int64.toInt_zero] at hi
    exact Number.fits_iff.2 (by omega)
  | place _ _ _ hp => exact Operator.lt_of_position? hp
  | numeral hbase hsubscript hp hrun =>
    rw [eval_index hbase hsubscript rfl rfl] at hrun
    exact Operator.lt_of_index_numeral hp hrun
  | @selectors _ _ _ _ v vs ks _ _ _ m₃ hlabel hv hvs hks hrun =>
    cases vs with
    | nil => exact absurd (eval_filter hv hvs hks hlabel) hrun
    | cons => exact Nat.le_add_left _ _
  | repetition => exact absurd rfl (hcopies _ _)
  | @quotient _ _ x y _ _ m₂ hl hr hrun =>
    refine Number.ne_zero_iff.1 fun hy => hrun ?_
    exact (eval_binary hl hr rfl rfl _).trans ((Operator.operatesExactly a x y m₂).byZero hy).1
  | @corrected _ _ x y q _ _ m₂ hl hr hrun hq hrest _ =>
    have hy : y ≠ 0 := fun hy => hrun
      ((eval_binary hl hr rfl rfl _).trans ((Operator.operatesExactly a x y m₂).byZero hy).1)
    have hexact := Number.toInt_sub_one hy (Number.fit?_eq_some_iff.1 hq) hrest
    rw [MachineStep.Safe, ← hexact]
    exact Number.fits_toInt (q - 1)
  | @rest _ _ x y _ _ m₂ hl hr hrun =>
    refine Number.ne_zero_iff.1 fun hy => hrun ?_
    exact (eval_binary hl hr rfl rfl _).trans ((Operator.operatesExactly a x y m₂).byZero hy).2
  | @correctedRest _ _ x y _ _ _ _ _ _ hsigns =>
    rw [MachineStep.Safe, ← Number.toInt_add_divisor hsigns]
    exact Number.fits_toInt (x % y + y)
  | @parity _ _ _ _ _ _ x =>
    have hbounds := Number.toInt_bounds x
    have hhalf : (x.toInt.tdiv 2).natAbs = x.toInt.natAbs / 2 := Int.natAbs_tdiv _ _
    exact ⟨by decide, Number.fits_iff.2 (by omega)⟩
  | @divisor _ _ _ _ _ x y _ _ _ _ _ m₃ htest hv hvs hks hrun =>
    refine Number.ne_zero_iff.1 fun hy => hrun ?_
    rw [eval_test hv hvs hks htest, hy]
    rfl

end Takes

/-! ### Templates -/

/-- Rendering nodes comes to turn `i` of a loop through `n` items. -/
inductive ComesToTurn (env : Environment) (a : Access) :
    List Node → Scopes → Memory → (i n : Nat) → Prop
  | here {targets : List String} {sequence : Expr} {body rest : List Node}
    {otherwise : Option (List Node)} {s : Scopes} {m m₁ m₂ m₃ : Memory} {v item : Value}
    {items before after : List Value} {text : String} :
    eval env a s sequence m = .ok v m₁ → loopItems a targets.length v m₁ = .ok items m₂ →
    items = before ++ item :: after →
    turns (renderNodes env a body) targets s items.length 0 before m₂ = .ok text m₃ →
    ComesToTurn env a (.loop targets sequence body otherwise :: rest) s m before.length
      items.length
  | inside {targets : List String} {sequence : Expr} {body rest : List Node}
    {otherwise : Option (List Node)} {s inner : Scopes} {m m₁ m₂ m₃ m₄ : Memory}
    {v item : Value} {items before after : List Value} {text : String} {i n : Nat} :
    eval env a s sequence m = .ok v m₁ → loopItems a targets.length v m₁ = .ok items m₂ →
    items = before ++ item :: after →
    turns (renderNodes env a body) targets s items.length 0 before m₂ = .ok text m₃ →
    bindTargets targets item ([] :: s) m₃ = .ok inner m₄ →
    ComesToTurn env a body (inner.set "loop" (loopInfo before.length items.length)) m₄ i n →
    ComesToTurn env a (.loop targets sequence body otherwise :: rest) s m i n
  | empty {targets : List String} {sequence : Expr} {body otherwise rest : List Node}
    {s : Scopes} {m m₁ m₂ : Memory} {v : Value} {i n : Nat} :
    eval env a s sequence m = .ok v m₁ → loopItems a targets.length v m₁ = .ok [] m₂ →
    ComesToTurn env a otherwise s m₂ i n →
    ComesToTurn env a (.loop targets sequence body (some otherwise) :: rest) s m i n
  | case {before after : List (Expr × List Node)} {c : Expr} {body rest : List Node}
    {otherwise : Option (List Node)} {s : Scopes} {m m₁ m₂ : Memory} {v : Value} {i n : Nat} :
    renderCases env a before s m = .ok none m₁ → eval env a s c m₁ = .ok v m₂ →
    v.truthy = true → ComesToTurn env a body s m₂ i n →
    ComesToTurn env a (.branch (before ++ (c, body) :: after) otherwise :: rest) s m i n
  | otherwise {cases : List (Expr × List Node)} {body rest : List Node} {s : Scopes}
    {m m₁ : Memory} {i n : Nat} :
    renderCases env a cases s m = .ok none m₁ → ComesToTurn env a body s m₁ i n →
    ComesToTurn env a (.branch cases (some body) :: rest) s m i n
  | later {node : Node} {rest : List Node} {s s₁ : Scopes} {m m₁ : Memory} {text : String}
    {i n : Nat} :
    renderNode env a node s m = .ok (text, s₁) m₁ → ComesToTurn env a rest s₁ m₁ i n →
    ComesToTurn env a (node :: rest) s m i n

theorem ComesToTurn.lt {nodes : List Node} {i n : Nat}
    (h : ComesToTurn env a nodes scopes m i n) : i < n := by
  induction h with
  | here _ _ hsplit _ =>
    rw [hsplit, List.length_append, List.length_cons]
    omega
  | inside _ _ _ _ _ _ ih => exact ih
  | empty _ _ _ ih => exact ih
  | case _ _ _ _ ih => exact ih
  | otherwise _ _ ih => exact ih
  | later _ _ ih => exact ih

/-- The steps that rendering a template takes without asking the machine first: those of the
expressions it comes to, and in each turn of a loop the differences between the number of items
and that of the turn. -/
inductive RenderTakes (env : Environment) (a : Access) (template : Template) :
    MachineStep → Prop
  | expression {needed : Bool} {e part : Expr} {s : Scopes} {m m' : Memory} {step : MachineStep} :
    Evaluates env a needed template [[]] {} e s m → ComesTo env a s e m part m' →
    Takes env a s part m' step → RenderTakes env a template step
  | left {i n : Nat} : ComesToTurn env a template [[]] {} i n →
    RenderTakes env a template (.lengthDifference n i)
  | behind {i n : Nat} : ComesToTurn env a template [[]] {} i n →
    RenderTakes env a template (.lengthDifference (n - i) 1)
  | last {i n : Nat} : ComesToTurn env a template [[]] {} i n →
    RenderTakes env a template (.lengthDifference n 1)

end Evaluation

/-! ### Breakdowns -/

/-- The bridge between two runs over one plain mapping, for errors that break down only where
they have to. -/
def Bridge.justified : Bridge :=
  .level (fun _ _ _ => True) RenderError.Justified 0 id (fun _ => nofun)
    RenderError.justified_of_isOwn

theorem Reading.simulates_justified (values : Dict Value) :
    Simulates .justified RenderError.Justified (fun _ _ => True) (plain values)
      (plain values) where
  left := rfl
  right := rfl
  fault _ he := he
  count _ _ _ := trivial
  name s m m' _ := by
    refine ⟨?_, trivial⟩
    cases Dict.find? values s with
    | none => exact .none
    | some v => exact .some (.refl_of_same fun _ _ => trivial)
  entry key m m' _ _ := ⟨.undefined key, trivial⟩
  opened _ _ _ h := h.elim

/-- **A render breaks down over copies that do not fit,** and over nothing else. -/
theorem Environment.not_safe_of_crash {env : Environment} {values : Dict Value}
    {template : Template} {e : RenderError} {bytes times : Nat}
    (h : env.renderTemplateWith values template = .error e)
    (hcrash : e.rootCause = .crash bytes times) :
    ¬(MachineStep.copies bytes times).Safe := by
  have hrun : Follows Eq RenderError.Justified (fun _ _ => True)
      (Evaluation.renderTemplate env (Reading.plain values) template {})
      (Evaluation.renderTemplate env (Reading.plain values) template {}) :=
    (Parallel.renderTemplate env template (.inl fun _ _ _ _ h => h)).follows
      (Reading.simulates_justified values) trivial
  rw [renderTemplateWith, Context.run] at h
  rcases hfinish : Evaluation.renderTemplate env (Reading.plain values) template {}
    with ⟨t, m⟩ | ⟨e', m⟩
  · rw [hfinish] at h
    cases h
  · rw [hfinish] at h hrun
    obtain rfl := Except.error.inj h
    exact Nat.not_le_of_lt (hrun.2.1 bytes times hcrash)

namespace Evaluation

/-- **Extreme integers stop no render, but for repeated texts.**  For every template and every
plain mapping, each step that rendering takes without asking first has a result, unless it
copies a text.  A text is copied as often as an integer says: the repetition has the bytes of
all copies if a machine can hold so many, and else the program breaks down over it.  No render
breaks down over anything else. -/
theorem steps_of_render (env : Environment) (values : Dict Value) (template : Template) :
    (∀ step, RenderTakes env (Reading.plain values) template step → step.OnWords →
      (∀ bytes times, step ≠ .copies bytes times) → step.Safe) ∧
    (∀ bytes times, RenderTakes env (Reading.plain values) template (.copies bytes times) →
      ∃ needed e s m part m', Evaluates env (Reading.plain values) needed template [[]] {} e
          s m ∧ ComesTo env (Reading.plain values) s e m part m' ∧
        ((MachineStep.copies bytes times).Safe →
          ∃ t m'', eval env (Reading.plain values) s part m' = .ok (.str t) m'' ∧
            t.utf8ByteSize = bytes * times) ∧
        (¬(MachineStep.copies bytes times).Safe →
          ∃ m'', eval env (Reading.plain values) s part m' = .error (.crash bytes times) m'')) ∧
    ∀ e bytes times, env.renderTemplateWith values template = .error e →
      e.rootCause = .crash bytes times → ¬(MachineStep.copies bytes times).Safe := by
  refine ⟨fun step h hwords hcopies => ?_, fun bytes times h => ?_,
    fun e bytes times => Environment.not_safe_of_crash⟩
  · cases h with
    | expression _ _ hstep => exact hstep.safe hwords hcopies
    | left hturn => exact Nat.le_of_lt hturn.lt
    | behind hturn => exact Nat.sub_pos_of_lt hturn.lt
    | last hturn => exact Nat.lt_of_le_of_lt (Nat.zero_le _) hturn.lt
  · cases h with
    | @expression needed e part s m m' _ he hpart hstep =>
      exact ⟨needed, e, s, m, part, m', he, hpart, hstep.copies_eq, hstep.crash_of_not_safe⟩

/-- The last item of a list, counted from the end, a text that is repeated twice, and one that
is repeated too often. -/
theorem steps_of_render_last :
    let values : Dict Value := [("xs", .list [.int 1, .int 2])]
    let last : Template := [.output (.index (.name "xs") (.int (-1)))]
    let twice : Template := [.output (.binary .mul (.str "ab") (.int 2))]
    let often : Template := [.output (.binary .mul (.str "ab") (.int Int64.maxValue))]
    (RenderTakes {} (Reading.plain values) last (.sum 2 (-1)) ∧
      (MachineStep.sum 2 (-1)).OnWords ∧ (MachineStep.sum 2 (-1)).Safe) ∧
    (RenderTakes {} (Reading.plain values) twice (.copies 2 2) ∧
      ∃ needed e s m part m', Evaluates {} (Reading.plain values) needed twice [[]] {} e s m ∧
        ComesTo {} (Reading.plain values) s e m part m' ∧
        ∃ t m'', eval {} (Reading.plain values) s part m' = .ok (.str t) m'' ∧
          t.utf8ByteSize = 2 * 2) ∧
    Environment.renderTemplateWith {} values often = .error (.crash 2 (2 ^ 63 - 1)) ∧
      ¬(MachineStep.copies 2 (2 ^ 63 - 1)).Safe := by
  intro values last twice often
  have hsum : RenderTakes {} (Reading.plain values) last (.sum 2 (-1)) :=
    .expression .output .here (.fromEnd (i := -1) (n := 2) rfl rfl rfl (by decide))
  have hcopies : RenderTakes {} (Reading.plain values) twice (.copies 2 2) :=
    .expression .output .here (.repetition (s := "ab") (n := 2) rfl rfl (.inl ⟨rfl, rfl⟩))
  have hwords : (MachineStep.sum 2 (-1)).OnWords := ⟨by decide, by decide⟩
  have hcrash : Environment.renderTemplateWith {} values often = .error (.crash 2 (2 ^ 63 - 1)) :=
    rfl
  obtain ⟨needed, e, s, m, part, m', he, hpart, hsafe, -⟩ :=
    (steps_of_render {} values twice).2.1 _ _ hcopies
  exact ⟨⟨hsum, hwords, (steps_of_render {} values last).1 _ hsum hwords nofun⟩,
    ⟨hcopies, needed, e, s, m, part, m', he, hpart, hsafe (by decide)⟩,
    hcrash, (steps_of_render {} values often).2.2 _ _ _ hcrash rfl⟩

/-- **A text may be repeated beyond what a machine can hold.**  Two bytes, as often as the
greatest integer says, are more than `2 ^ 63 - 1`.  The repetition is no error and no text: the
program breaks down over it. -/
theorem renderTakes_copies :
    let e := Expr.binary .mul (.str "ab") (.int Int64.maxValue)
    RenderTakes {} (Reading.plain []) [.output e] (.copies 2 (2 ^ 63 - 1)) ∧
      ¬(MachineStep.copies 2 (2 ^ 63 - 1)).Safe ∧
      Environment.renderTemplateWith {} [] [.output e] = .error (.crash 2 (2 ^ 63 - 1)) := by
  intro e
  have hstep : Takes {} (Reading.plain []) [[]] e {} (.copies 2 (2 ^ 63 - 1)) :=
    .repetition (s := "ab") (n := Int64.maxValue) rfl rfl (.inl ⟨rfl, rfl⟩)
  exact ⟨.expression .output .here hstep, by decide, rfl⟩

end Evaluation
end MailMerge
