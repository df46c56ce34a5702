import QueryOptions.Proofs.Contraries
import QueryOptions.Proofs.GrammarFaults

/-!
# QueryOptions.Proofs.PatternFaults

What is wrong with a pattern is said of the pattern. While a text is read, nothing comes up but
faults of its grammar and numbers of repetitions beyond the limit, which stand in braces of the text
(`Reader.heeding`); in the end, both alphabets may have been asked for, which takes two groups of
options in the text. So a clause with a pattern is read, or its pattern is refused as it was given,
or it is one of these two problems (`Filters.readClause_refuses`).

* `problem_of_compile`: why a text is no regular expression;
* `braces_of_unfoundSource`, `not_asksForBoth_unfoundSource`: neither problem comes from what a
  negated pattern is written into.
-/

namespace QueryOptions
namespace Regex
namespace Reader

variable {α : Type} {blame : Problem → Prop} {text : List Symbol} {p : Progress}

/-! ## Whole expressions -/

/-- Once the alternatives are read, both alphabets have been asked for. -/
def AsksForBoth (p : Progress) : Prop :=
  ∃ pieces q, (alternatives true (4 * p.rest.length + 4) p.flags).run p = .ok (pieces, q) ∧
    q.flags.ascii = true ∧ q.flags.unicode = true

theorem settled_eq_error {f : Flags} {problem : Problem} (h : f.settled = .error problem) :
    problem = .twoAlphabets ∧ f.ascii = true ∧ f.unicode = true := by
  unfold Flags.settled at h
  split at h
  · cases h
  rename_i hascii
  split at h
  · rename_i hunicode
    cases h
    exact ⟨rfl, by simpa using hascii, hunicode⟩
  · cases h

theorem heeds_liftM {e : Except Problem α} {post : α → Progress → Prop}
    (hok : ∀ a, e = .ok a → post a p) (herror : ∀ problem, e = .error problem → blame problem) :
    Heeds blame (liftM e : Reader α) p post := by
  cases e with
  | ok a => exact hok a rfl
  | error problem =>
    cases problem with
    | fault f => trivial
    | _ => exact herror _ rfl

theorem reached_startOf (source : String) :
    Reached (symbolsOf source.toList) (startOf source caseless) :=
  ⟨List.suffix_refl _, nofun, nofun⟩

/-- After its alternatives are read, nothing more of a text is, and nothing but the alphabets can
come up besides its faults. -/
theorem heeds_wholeExpression (hp : Reached text p) (hascii : p.flags.ascii = false)
    (hunicode : p.flags.unicode = false) :
    Heeds (fun problem => Blamed text problem ∨ problem = .twoAlphabets ∧ AsksForBoth p)
      wholeExpression p
      fun _ q => ∃ pieces,
        (alternatives true (4 * p.rest.length + 4) p.flags).run p = .ok (pieces, q) := by
  refine heeds_checkDangling.bind fun _ r hr => ?_
  subst hr
  apply heeds_get
  refine Heeds.bind (((heeding text _).alternatives true _ r hp).mono
    (fun pieces q hrun _ => hrun) fun _ => .inl) fun pieces q hrun => heeds_get ?_
  have hsettled : Heeds
      (fun problem => Blamed text problem ∨ problem = .twoAlphabets ∧ AsksForBoth r)
      (liftM (r.flags.union q.flags).settled : Reader Flags) q fun _ t =>
        (alternatives true (4 * r.rest.length + 4) r.flags).run r = .ok (pieces, t) := by
    refine heeds_liftM (fun f _ => hrun) fun problem hproblem => ?_
    obtain ⟨rfl, hboth⟩ := settled_eq_error hproblem
    simp only [Flags.union, hascii, hunicode, Bool.false_or] at hboth
    exact .inr ⟨rfl, pieces, q, hrun, hboth⟩
  refine hsettled.bind fun _ t ht => ?_
  refine heeds_get (heeds_ite (fun _ => ((refuses_refuse _ _).bind _).heeds) fun _ => ?_)
  refine heeds_get (heeds_get ?_)
  split
  · exact (refuses_refuseAt _ _).heeds
  · exact heeds_get (heeds_pure ⟨pieces, ht⟩)

end Reader

open Reader

variable {source pattern : String} {problem : Problem}

/-- Why a text is no regular expression. -/
theorem problem_of_compile (h : compile source caseless = .error problem) :
    (∃ f, problem = .fault f) ∨ Blamed (symbolsOf source.toList) problem ∨
      problem = .twoAlphabets ∧ AsksForBoth (startOf source caseless) := by
  have hwhole := heeds_wholeExpression (reached_startOf source) rfl rfl
  unfold Heeds startOf at hwhole
  unfold compile at h
  cases hrun : wholeExpression.run
      { rest := symbolsOf source.toList, position := 0, flags := caseless } with
  | error e =>
    rw [hrun] at h hwhole
    obtain rfl := Except.error.inj h
    cases e with
    | fault f => exact .inl ⟨f, rfl⟩
    | _ => exact .inr hwhole
  | ok result =>
    rw [hrun] at h hwhole
    dsimp only at h
    split at h
    · rename_i hsettled
      cases h
      obtain ⟨rfl, hboth⟩ := settled_eq_error hsettled
      obtain ⟨pieces, hpieces⟩ := hwhole
      exact .inr (.inr ⟨rfl, pieces, result.2, hpieces, hboth⟩)
    · split at h
      · cases h
        exact .inl ⟨_, rfl⟩
      · cases h

/-- Both alphabets are on only if the text asks for both. -/
theorem asksFor_of_both (h : AsksForBoth (startOf source caseless)) :
    AsksFor 'a' (symbolsOf source.toList) ∧ AsksFor 'u' (symbolsOf source.toList) := by
  obtain ⟨pieces, q, hrun, hascii, hunicode⟩ := h
  have hreached : Reached (symbolsOf source.toList) q :=
    ((heeding _ _).alternatives true caseless _ (reached_startOf source)).ends hrun
  exact ⟨hreached.ascii hascii, hreached.unicode hunicode⟩

/-! ## Patterns inside of their contraries -/

/-- Options do not come inside of the contrary of a pattern: they would come after an item. -/
theorem not_asksForBoth_unfoundSource :
    ¬AsksForBoth (startOf (unfoundSource pattern) caseless) := by
  rintro ⟨pieces, q, hrun, hascii, -⟩
  have hrest := rest_startOf (unfoundSource pattern) caseless
  rw [symbolsOf_unfoundSource] at hrest
  obtain ⟨fuel, hfuel⟩ : ∃ fuel, 4 * (startOf (unfoundSource pattern) caseless).rest.length + 4
      = fuel + 1 + 1 := ⟨_, rfl⟩
  rw [hfuel] at hrun
  unfold alternatives at hrun
  obtain ⟨first, r, hfirst, hchoice⟩ := run_bind_eq_ok.mp hrun
  have hflags : r.flags = caseless := by
    have hplaced : (sequence true (fuel + 1) caseless []).run
        (startOf (unfoundSource pattern) caseless) = .ok (first, r) := hfirst
    rw [run_sequence_piece (.head _) hrest (by simp)] at hplaced
    exact keeps_sequence fuel (List.cons_ne_nil _ _) _ _ _ rfl hplaced
  rw [flags_of_choice hchoice, hflags] at hascii
  cases hascii

theorem infix_of_append {α : Type} {l before after : List α} (hl : l ≠ [])
    (h : ∀ a ∈ l, a ∉ before) (hwhole : l <:+: before ++ after) : l <:+: after := by
  induction before with
  | nil => exact hwhole
  | cons b before ih =>
    rcases List.infix_cons_iff.mp hwhole with hprefix | hrest
    · obtain ⟨a, rest, rfl⟩ := List.exists_cons_of_ne_nil hl
      exact absurd (List.cons_prefix_cons.mp hprefix).1 fun hab => h a (.head _) (hab ▸ .head _)
    · exact ih (fun a ha hb => h a ha (.tail _ hb)) hrest

theorem infix_of_append_right {α : Type} {l before after : List α} (hl : l ≠ [])
    (h : ∀ a ∈ l, a ∉ after) (hwhole : l <:+: before ++ after) : l <:+: before := by
  rw [← List.reverse_infix] at hwhole ⊢
  rw [List.reverse_append] at hwhole
  refine infix_of_append (by simpa using hl) ?_ hwhole
  simpa using h

/-- Braces with nothing of what surrounds a pattern in its contrary are those of the pattern. -/
theorem braces_of_unfoundSource {inside : List Char}
    (hinside : ∀ c ∈ inside, c ∉ ['^', '(', '?', '!', ')', '.', '*', '$'])
    (h : braces inside <:+: symbolsOf (unfoundSource pattern).toList) :
    braces inside <:+: symbolsOf pattern.toList := by
  have hbraces : braces inside ≠ [] := nofun
  have hplain {s : Symbol} (hs : s ∈ braces inside) :
      ∃ c, s = .plain c ∧ c ∉ ['^', '(', '?', '!', ')', '.', '*', '$'] := by
    obtain ⟨c, hc, rfl⟩ := List.mem_map.mp hs
    refine ⟨c, rfl, ?_⟩
    rcases List.mem_cons.mp hc with rfl | hc
    · decide
    · rcases List.mem_append.mp hc with hc | hc
      · exact hinside c hc
      · rw [List.mem_singleton.mp hc]
        decide
  have hbefore : ∀ s ∈ braces inside, s ∉ ['^', '(', '(', '?', '!'].map Symbol.plain := by
    intro s hs
    obtain ⟨c, rfl, hc⟩ := hplain hs
    simp_all
  have hafter : ∀ s ∈ braces inside,
      s ∉ [')', '.', ')', '*', '$'].map Symbol.plain ∧
        s ∉ .escaped ')' :: ['.', ')', '*', '$'].map Symbol.plain := by
    intro s hs
    obtain ⟨c, rfl, hc⟩ := hplain hs
    simp_all
  rw [symbolsOf_unfoundSource] at h
  have hwithin : braces inside <:+: symbolsOf (pattern.toList ++ ')' :: ['.', ')', '*', '$']) :=
    infix_of_append hbraces hbefore h
  have hcontinued := continued_symbolsOf pattern.toList ['.', ')', '*', '$']
  generalize symbolsOf (pattern.toList ++ ')' :: ['.', ')', '*', '$']) = whole at hcontinued hwithin
  generalize symbolsOf pattern.toList = symbols at hcontinued ⊢
  cases hcontinued with
  | close => exact infix_of_append_right hbraces (fun s hs => (hafter s hs).1) hwithin
  | dangling rest =>
    have hrest := infix_of_append_right hbraces (fun s hs => (hafter s hs).2) hwithin
    exact hrest.trans (List.prefix_append _ _).isInfix

theorem surrounds_nothing {c : Char} (hc : isDigit c = true ∨ c = ',') :
    c ∉ ['^', '(', '?', '!', ')', '.', '*', '$'] := by
  intro h
  simp only [List.mem_cons, List.not_mem_nil, or_false] at h
  rcases h with rfl | rfl | rfl | rfl | rfl | rfl | rfl | rfl <;> revert hc <;> decide

/-- What is beyond the limit in the contrary of a pattern is so in the pattern. -/
theorem hugeCount_of_unfoundSource (h : HugeCount (symbolsOf (unfoundSource pattern).toList)) :
    HugeCount (symbolsOf pattern.toList) := by
  cases h with
  | alone hcount hdigits hbraces =>
    refine .alone hcount hdigits (braces_of_unfoundSource (fun c hc => ?_) hbraces)
    exact surrounds_nothing (.inl (List.all_eq_true.mp hdigits c hc))
  | bound hcount hdigits hbraces =>
    refine .bound hcount hdigits (braces_of_unfoundSource (fun c hc => ?_) hbraces)
    rcases List.mem_append.mp hc with hc | hc
    · exact surrounds_nothing (.inl (List.all_eq_true.mp hdigits c (List.mem_append_left _ hc)))
    · rcases List.mem_cons.mp hc with hc | hc
      · exact surrounds_nothing (.inr hc)
      · exact surrounds_nothing (.inl (List.all_eq_true.mp hdigits c (List.mem_append_right _ hc)))

/-- What else than a fault can be wrong with the expression that is made of a pattern. -/
theorem problem_of_sourceOf {o : Operator} (ho : o.takesPattern = true)
    (h : compile (o.sourceOf pattern) caseless = .error problem) :
    (∃ f, problem = .fault f) ∨
      (problem = .tooManyRepeats ∧ HugeCount (symbolsOf pattern.toList)) ∨
      (problem = .twoAlphabets ∧ o = .found ∧ AsksFor 'a' (symbolsOf pattern.toList) ∧
        AsksFor 'u' (symbolsOf pattern.toList)) := by
  rcases Operator.eq_of_takesPattern ho with rfl | rfl
  · rcases problem_of_compile h with hfault | hblamed | ⟨rfl, hboth⟩
    · exact .inl hfault
    · exact .inr (.inl hblamed)
    · exact .inr (.inr ⟨rfl, rfl, asksFor_of_both hboth⟩)
  · rcases problem_of_compile h with hfault | ⟨rfl, hhuge⟩ | ⟨rfl, hboth⟩
    · exact .inl hfault
    · exact .inr (.inl ⟨rfl, hugeCount_of_unfoundSource hhuge⟩)
    · exact absurd hboth not_asksForBoth_unfoundSource

end Regex

namespace Filters

open Regex

/-- What is raised when no regular expression can be made of a pattern. -/
def faultOf (pattern source : String) : Problem → Fault
  | .fault f => .invalidPattern (.text pattern) (.malformed f source)
  | .tooManyRepeats => .overflow
  | .twoAlphabets => .unreadable

theorem readClause_of_problem {settings : FilterSettings} (hs : shadowed settings.operators = [])
    {o : Operator} (ho : o.takesPattern = true) {key : Value} {pattern : String} {clause : Dict}
    (hclause : IsClause key o (.text pattern) clause) {problem : Problem}
    (h : Regex.compile (o.sourceOf pattern) Reader.caseless = .error problem) :
    readClause settings (.dict clause) = .error (faultOf pattern (o.sourceOf pattern) problem) := by
  rw [readClause_pattern hs ho hclause, Operator.criterion_text ho, compilePattern, h]
  cases problem <;> rfl

/-- A clause with a pattern is read, or the pattern is refused as it was given, unless it has a
number of repetitions beyond the limit or is to be found under both alphabets. -/
theorem readClause_refuses {library : Library} {operators : Value} {s : Filters}
    (hs : new library operators = .ok s) {o : Operator} (ho : o.takesPattern = true)
    {key v : Value} (hkey : key.isKey = true) {clause : Dict} (hclause : IsClause key o v clause) :
    readClause s.settings (.dict clause) = .ok (.field key o v) ∨
    (∃ why, readClause s.settings (.dict clause) = .error (.invalidPattern v why)) ∨
    ∃ pattern, v = .text pattern ∧
      ((readClause s.settings (.dict clause) = .error .overflow ∧
          HugeCount (symbolsOf pattern.toList)) ∨
        (readClause s.settings (.dict clause) = .error .unreadable ∧ o = .found ∧
          AsksFor 'a' (symbolsOf pattern.toList) ∧ AsksFor 'u' (symbolsOf pattern.toList))) := by
  have hshadowed := Query.shadowed_of_newFilters hs
  cases hv : v.text? with
  | none =>
    rw [readClause_pattern hshadowed ho hclause, Operator.criterion_other ho hv]
    exact .inr (.inl ⟨_, rfl⟩)
  | some pattern =>
    obtain rfl : v = .text pattern := by
      cases v <;> cases hv
      rfl
    cases hcompile : Regex.compile (o.sourceOf pattern) Reader.caseless with
    | ok r =>
      have hkeyed : keyed key (.regex r) = .ok [(key, .regex r)] := if_pos hkey
      refine .inl ?_
      rw [readClause_pattern hshadowed ho hclause, Operator.criterion_text ho, compilePattern,
        hcompile]
      dsimp only
      rw [hkeyed]
      rfl
    | error problem =>
      rw [readClause_of_problem hshadowed ho hclause hcompile]
      rcases problem_of_sourceOf ho hcompile with ⟨f, rfl⟩ | ⟨rfl, hhuge⟩ | ⟨rfl, hfound, hboth⟩
      · exact .inr (.inl ⟨_, rfl⟩)
      · exact .inr (.inr ⟨pattern, rfl, .inl ⟨rfl, hhuge⟩⟩)
      · exact .inr (.inr ⟨pattern, rfl, .inr ⟨rfl, hfound, hboth⟩⟩)

/-- The class of a refusal, none without one. -/
def refusalClass? {α : Type} : Except Fault α → Option FaultClass
  | .ok _ => none
  | .error f => f.class?

/-- The pattern is carried, not the expression that is made of it. -/
theorem openGroup_refused :
    ∃ why, readClause plain.settings (.dict (patternClause .unfound "("))
      = .error (.invalidPattern (.text "(") why) := by
  have hnew : new (fun _ _ _ => .error .mismatch) .null = .ok plain := rfl
  have hclass : refusalClass? (readClause plain.settings (.dict (patternClause .unfound "(")))
      = some .pattern := by decide +kernel
  rcases readClause_refuses hnew (o := .unfound) rfl rfl (patternClause_isClause .unfound "(") with
    hread | hwhy | ⟨_, -, ⟨hhuge, -⟩ | ⟨-, hfound, -⟩⟩
  · rw [hread] at hclass
    cases hclass
  · exact hwhy
  · rw [hhuge] at hclass
    cases hclass
  · cases hfound

/-- Numbers of repetitions may be too large, and one alphabet may be asked for after the other one.
-/
theorem hugeCount_breaks_refusal :
    readClause plain.settings (.dict (patternClause .found "a\x7b4294967295\x7d"))
      = .error .overflow ∧
    readClause plain.settings (.dict (patternClause .unfound "a\x7b4294967295\x7d"))
      = .error .overflow ∧
    readClause plain.settings (.dict (patternClause .found "(?a)(?u)x")) = .error .unreadable := by
  have hproblem {o : Operator} (ho : o.takesPattern = true) {pattern : String} {problem : Problem}
      (h : Regex.compile (o.sourceOf pattern) Reader.caseless = .error problem) :
      readClause plain.settings (.dict (patternClause o pattern))
        = .error (faultOf pattern (o.sourceOf pattern) problem) :=
    readClause_of_problem rfl ho (patternClause_isClause o pattern) h
  have hfound : Regex.compile (Operator.found.sourceOf "a\x7b4294967295\x7d") Reader.caseless
      = .error .tooManyRepeats := by
    decide +kernel
  have hunfound : Regex.compile (Operator.unfound.sourceOf "a\x7b4294967295\x7d") Reader.caseless
      = .error .tooManyRepeats := by
    decide +kernel
  have hboth : Regex.compile (Operator.found.sourceOf "(?a)(?u)x") Reader.caseless
      = .error .twoAlphabets := by
    decide +kernel
  exact ⟨hproblem rfl hfound, hproblem rfl hunfound, hproblem rfl hboth⟩

end Filters
end QueryOptions
