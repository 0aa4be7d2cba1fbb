import QuadraticProgram.Proofs.Session.Acts
import QuadraticProgram.Session.Construct

/-!
# Acts that only read

To print values, to compare them and to read their items or what they stand for changes nothing
but the next free tag.
-/

namespace QuadraticProgram.Session.Act

/-! ### Texts -/

/-- The name of a variable is only looked up. -/
@[simp]
theorem isQuiet_nameOf (v : Variable) :
  (nameOf v).IsQuiet
  := by
  rw [nameOf]
  apply (isQuiet_attribute? _ _).bind
  intro name
  split
  all_goals apply isQuiet_pure

/-- To see whether a variable can be printed only looks its name up. -/
@[simp]
theorem isQuiet_requirePrintable (v : Variable) :
  (requirePrintable v).IsQuiet
  := by
  rw [requirePrintable]
  apply isQuiet_ite
  · apply (isQuiet_nameOf v).bind
    intro name
    apply (isQuiet_ofResult _).bind
    intro b
    apply isQuiet_ite (isQuiet_throw _) (isQuiet_pure _)
  · apply isQuiet_pure

/-- To show a value is quiet if to show its parts is. -/
theorem isQuiet_shownTo_succ {depth : ℕ} (hshown : ∀ v, (shownTo depth v).IsQuiet)
    (hproblem : ∀ r, (problemWith depth r).IsQuiet) (v : Value) :
  (shownTo (depth + 1) v).IsQuiet
  := by
  have hall := fun vs => isQuiet_mapM hshown vs
  cases v with
  | list tag items | tuple tag items | exception tag kind items names values =>
      rw [shownTo]
      apply (hall items).map
  | dict tag keys values | frozen tag keys values =>
      rw [shownTo]
      apply (hall keys).map₂ (hall values)
  | slice tag a b c =>
      rw [shownTo]
      apply (hshown a).map₃ (hshown b) (hshown c)
  | expression tag e =>
      rw [shownTo]
      apply isQuiet_ite (isQuiet_pure _)
      apply (isQuiet_mapM _ _).map
      intro x
      apply (isQuiet_nameOf x).bind fun name => (hshown name).map _
  | grid tag elements rows columns =>
      rw [shownTo]
      apply (hall elements).map₃ (hshown rows) (hshown columns)
  | pair tag a b | constraint tag form a b sense | parameters tag a b =>
      rw [shownTo]
      apply (hshown a).map₂ (hshown b)
  | objective tag e sense =>
      rw [shownTo]
      apply (hshown e).map
  | problem tag =>
      rw [shownTo]
      apply (isQuiet_record tag).bind fun r => (hproblem r).map _
  | solution tag keys values best status =>
      rw [shownTo]
      apply (hshown _).map₃ (hshown best) (hshown status)
  | _ =>
      rw [shownTo]
      apply isQuiet_pure

/-- To show the problem of a record is quiet if to show its name is. -/
theorem isQuiet_problemWith_succ {depth : ℕ} (hshown : ∀ v, (shownTo depth v).IsQuiet)
    (r : Record) :
  (problemWith (depth + 1) r).IsQuiet
  := by
  rw [problemWith.eq_def]
  split
  · apply isQuiet_pure
  · apply isQuiet_throw
  · next below hbelow _ =>
      obtain rfl := Nat.succ.inj hbelow
      apply (hshown r.name).map

theorem isQuiet_problemWith_zero (r : Record) :
  (problemWith 0 r).IsQuiet
  := by
  rw [problemWith.eq_def]
  split
  · apply isQuiet_pure
  · apply isQuiet_throw
  · contradiction

/-- To show values and the problems of records is quiet down to every depth. -/
theorem isQuiet_shownTo_problemWith (depth : ℕ) :
  (∀ v, (shownTo depth v).IsQuiet) ∧ ∀ r, (problemWith depth r).IsQuiet
  := by
  induction depth with
  | zero =>
      constructor
      · intro v
        rw [shownTo]
        apply isQuiet_throw
      · apply isQuiet_problemWith_zero
  | succ depth ih =>
      obtain ⟨hshown, hproblem⟩ := ih
      constructor
      · apply isQuiet_shownTo_succ hshown hproblem
      · apply isQuiet_problemWith_succ hshown

/-- To show a value changes nothing. -/
@[simp]
theorem isQuiet_shown (v : Value) :
  (shown v).IsQuiet
  := (isQuiet_shownTo_problemWith _).1 v

/-- To show the name of a problem changes nothing. -/
@[simp]
theorem isQuiet_problemOf (r : Record) :
  (problemOf r).IsQuiet
  := (isQuiet_shownTo_problemWith _).2 r

/-- An expression is printed after the names of its variables were looked at. -/
@[simp]
theorem isQuiet_printedExpression (e : Expression Float) :
  (printedExpression e).IsQuiet
  := by
  apply IsQuiet.bind
  · apply isQuiet_forM isQuiet_requirePrintable
  · intro _
    apply isQuiet_pure

/-- The operators make expressions, which may need a tag, and nothing else. -/
@[simp]
theorem isQuiet_arithmetic (op : Arithmetic) (a b : Value) :
  (arithmetic op a b).IsQuiet
  := by
  rw [arithmetic]
  split
  · apply isQuiet_expression?
  · apply isQuiet_ofResult

/-- To take a row of a grid is to compute where it starts and ends. -/
@[simp]
theorem isQuiet_row (elements : List Value) (columns i : Value) :
  (GridLine.row elements columns i).IsQuiet
  := by
  apply (isQuiet_arithmetic _ _ _).bind
  intro start
  apply (isQuiet_arithmetic _ _ _).bind
  intro next
  apply (isQuiet_arithmetic _ _ _).bind
  intro stop
  apply (isQuiet_ofExcept _).bind
  intro s
  apply isQuiet_expression?

/-- A problem is printed with its objective, after which the names of its variables are looked at,
and its constraints. -/
theorem isQuiet_printedTo_problem {depth : ℕ} (h : ∀ v, (printedTo depth v).IsQuiet) (tag : ℕ) :
  (printedTo (depth + 1) (.problem tag)).IsQuiet
  := by
  rw [printedTo]
  apply (isQuiet_record tag).bind
  intro r
  apply (isQuiet_problemOf r).bind
  intro p
  extract_lets rest
  have hrest (objective : String) : (rest objective).IsQuiet := by
    apply (isQuiet_forM isQuiet_requirePrintable _).bind
    intro _
    apply (isQuiet_mapM h _).map
  split
  · apply (isQuiet_pure _).bind hrest
  · apply (h _).bind hrest

/-- A grid is printed row by row. -/
theorem isQuiet_printedTo_grid {depth : ℕ} (h : ∀ v, (printedTo depth v).IsQuiet) (tag : ℕ)
    (elements : List Value) (rows columns : Value) :
  (printedTo (depth + 1) (.grid tag elements rows columns)).IsQuiet
  := by
  rw [printedTo]
  apply ((isQuiet_ofResult _).map _).bind
  intro indices
  apply (isQuiet_mapM _ _).map
  intro i
  apply (isQuiet_row elements columns i).bind h

/-- To print a value is quiet if to print its parts is. -/
theorem isQuiet_printedTo_succ {depth : ℕ} (h : ∀ v, (printedTo depth v).IsQuiet) (v : Value) :
  (printedTo (depth + 1) v).IsQuiet
  := by
  cases v with
  | text | entry | flag | ratio | array | flags | member | duration =>
      rw [printedTo]
      apply isQuiet_pure
  | expression tag e =>
      rw [printedTo]
      apply isQuiet_printedExpression
  | pair tag a b | constraint tag form a b sense =>
      rw [printedTo]
      apply (h a).map₂ (h b)
  | objective tag e sense =>
      rw [printedTo]
      apply (h e).map
  | problem tag => apply isQuiet_printedTo_problem h
  | grid tag elements rows columns => apply isQuiet_printedTo_grid h
  | exception tag kind args names values =>
      rw [printedTo.eq_def]
      dsimp only
      split
      · apply isQuiet_pure
      · apply h
      · apply h
      · apply (isQuiet_shownTo_problemWith depth).1
  | _ =>
      rw [printedTo.eq_def]
      apply (isQuiet_shownTo_problemWith depth).1

/-- To print values is quiet down to every depth. -/
theorem isQuiet_printedTo (depth : ℕ) (v : Value) :
  (printedTo depth v).IsQuiet
  := by
  induction depth generalizing v with
  | zero =>
      rw [printedTo]
      apply isQuiet_throw
  | succ depth ih => apply isQuiet_printedTo_succ ih

@[simp]
theorem isQuiet_printed (v : Value) :
  (printed v).IsQuiet
  := isQuiet_printedTo _ v

/-! ### Comparisons -/

/-- A constraint only needs tags, for its sides and for itself. -/
@[simp]
theorem isQuiet_ofConstraint (lhs rhs : Value) (c : Constraint Float) :
  (ofConstraint lhs rhs c).IsQuiet
  := by
  have hside (v : Value) (e : Expression Float) :
      (if v.isExpression then pure v else expression e : Act Value).IsQuiet :=
    isQuiet_ite (isQuiet_pure v) (isQuiet_expression e)
  rw [ofConstraint]
  apply (hside lhs c.lhs).bind
  intro l
  apply (hside rhs c.rhs).bind
  intro r
  apply isQuiet_fresh.map _

/-- To compare expressions makes a constraint or a pair and nothing else. -/
@[simp]
theorem isQuiet_compare? (s : Sense) (a b : Value) :
  (compare? s a b).IsQuiet
  := by
  rw [compare?]
  split
  · apply isQuiet_pure
  · apply (isQuiet_ofExcept _).bind
    intro compared
    split
    · apply isQuiet_fresh.map _
    · split
      · apply (isQuiet_ofConstraint a b _).map _
      · apply (isQuiet_ofConstraint b a _).map _

/-- To compare the entries of two arrays pair by pair is quiet if each comparison is. -/
theorem isQuiet_comparedPairs {compare : Value → Value → Act Value}
    (h : ∀ v w, (compare v w).IsQuiet)
    (pairs : Except Fault (List ℕ × List (Value × Value))) :
  (do
    let (shape, entries) ← ofResult pairs
    return Value.ofFlags shape (← entries.mapM fun (x, y) => do
      ofResult (← compare x.withoutArray y.withoutArray).truth) : Act Value).IsQuiet
  := by
  apply (isQuiet_ofResult pairs).bind
  intro shapeAndEntries
  apply (isQuiet_mapM _ _).map
  intro pair
  apply (h _ _).bind fun _ => isQuiet_ofResult _

/-- Comparisons down to a depth are quiet. -/
structure ComparesQuietly (depth : ℕ) : Prop where
  equalTo : ∀ v w, (equalTo depth v w).IsQuiet
  itemEqual : ∀ v w, (itemEqual depth v w).IsQuiet
  itemsEqual : ∀ vs ws, (itemsEqual depth vs ws).IsQuiet
  lookupTo : ∀ code key keys values, (lookupTo depth code key keys values).IsQuiet
  entriesEqual : ∀ entries keys values, (entriesEqual depth entries keys values).IsQuiet

namespace ComparesQuietly

variable {depth : ℕ}

/-- Equality is quiet if it is one level below. -/
theorem equalTo_succ (h : ComparesQuietly depth) (v w : Value) :
  (Act.equalTo (depth + 1) v w).IsQuiet
  := by
  have hitems (vs ws : List Value) :
      (do return .bool (← Act.itemsEqual depth vs ws) : Act Value).IsQuiet :=
    (h.itemsEqual vs ws).map _
  rw [Act.equalTo.eq_def]
  apply (isQuiet_compare? _ _ _).bind
  intro compared
  split
  · apply isQuiet_pure
  · apply isQuiet_ite
    · apply (isQuiet_ofResult _).bind
      intro left
      apply (isQuiet_ofResult _).bind
      intro right
      apply isQuiet_comparedPairs h.equalTo
    · split
      · apply isQuiet_pure
      · apply isQuiet_pure
      · apply isQuiet_pure
      · apply isQuiet_pure
      · apply isQuiet_ite (hitems _ _) (isQuiet_pure _)
      · apply hitems
      · apply hitems
      · apply hitems
      · apply hitems
      · split
        · apply isQuiet_ite ((h.entriesEqual _ _ _).map _) (isQuiet_pure _)
        · split
          · apply isQuiet_pure
          · apply isQuiet_pure

/-- Whether two items are the same or equal is asked quietly if equality is quiet. -/
theorem itemEqual_succ (h : ComparesQuietly depth) (v w : Value) :
  (Act.itemEqual (depth + 1) v w).IsQuiet
  := by
  rw [Act.itemEqual]
  apply isQuiet_ite (isQuiet_pure _)
  apply (h.equalTo v w).bind fun _ => isQuiet_ofResult _

/-- Lists are compared item by item, up to the first ones that differ. -/
theorem itemsEqual_succ (h : ComparesQuietly depth) (vs ws : List Value) :
  (Act.itemsEqual (depth + 1) vs ws).IsQuiet
  := by
  rw [Act.itemsEqual.eq_def]
  split
  · contradiction
  · apply isQuiet_pure
  · next below v vs w ws hbelow =>
      obtain rfl := Nat.succ.inj hbelow
      apply (h.itemEqual v w).bind
      intro isEqual
      apply isQuiet_ite (h.itemsEqual vs ws) (isQuiet_pure _)
  · apply isQuiet_pure

/-- A key is compared with the keys that have its code, up to the first that is equal. -/
theorem lookupTo_succ (h : ComparesQuietly depth) (code : KeyCode) (key : Value)
    (keys values : List Value) :
  (Act.lookupTo (depth + 1) code key keys values).IsQuiet
  := by
  rw [Act.lookupTo.eq_def]
  split
  · contradiction
  · next below k keys v values hbelow =>
      obtain rfl := Nat.succ.inj hbelow
      apply (isQuiet_ofResult _).bind
      intro keyCode
      apply isQuiet_ite
      · apply (h.itemEqual _ _).bind
        intro isEqual
        apply isQuiet_ite (isQuiet_pure _) (h.lookupTo _ _ _ _)
      · apply h.lookupTo
  · apply isQuiet_pure

/-- Each entry is looked up among the others and compared with what is found. -/
theorem entriesEqual_succ (h : ComparesQuietly depth) (entries : List (Value × Value))
    (keys values : List Value) :
  (Act.entriesEqual (depth + 1) entries keys values).IsQuiet
  := by
  rw [Act.entriesEqual.eq_def]
  split
  · contradiction
  · apply isQuiet_pure
  · next below k v rest hbelow =>
      obtain rfl := Nat.succ.inj hbelow
      apply (isQuiet_ofResult _).bind
      intro keyCode
      apply (h.lookupTo _ _ _ _).bind
      intro found
      split
      · apply isQuiet_pure
      · apply (h.itemEqual _ _).bind
        intro isEqual
        apply isQuiet_ite (h.entriesEqual _ _ _) (isQuiet_pure _)

/-- At no depth every comparison is refused. -/
theorem zero :
  ComparesQuietly 0
  := by
  constructor
  · intro v w
    rw [Act.equalTo]
    apply isQuiet_throw
  · intro v w
    rw [Act.itemEqual]
    apply isQuiet_throw
  · intro vs ws
    rw [Act.itemsEqual]
    apply isQuiet_throw
  · intro code key keys values
    rw [Act.lookupTo]
    apply isQuiet_throw
  · intro entries keys values
    rw [Act.entriesEqual]
    apply isQuiet_throw

end ComparesQuietly

/-- Comparisons are quiet down to every depth. -/
theorem comparesQuietly (depth : ℕ) :
  ComparesQuietly depth
  := by
  induction depth with
  | zero => apply ComparesQuietly.zero
  | succ depth ih =>
      exact ⟨ih.equalTo_succ, ih.itemEqual_succ, ih.itemsEqual_succ, ih.lookupTo_succ,
        ih.entriesEqual_succ⟩

/-- Whether two values are equal is asked quietly. -/
@[simp]
theorem isQuiet_isEqual (v w : Value) :
  (isEqual v w).IsQuiet
  := (comparesQuietly _).itemEqual v w

/-- The first difference of two lists is found by comparisons alone. -/
theorem isQuiet_firstDifference (vs ws : List Value) :
  (firstDifference vs ws).IsQuiet
  := by
  induction vs generalizing ws with
  | nil =>
      rw [firstDifference.eq_def]
      apply isQuiet_pure
  | cons v vs ih =>
      cases ws with
      | nil =>
          rw [firstDifference.eq_def]
          apply isQuiet_pure
      | cons w ws =>
          rw [firstDifference]
          apply (isQuiet_isEqual v w).bind
          intro isEqual
          apply isQuiet_ite (ih ws) (isQuiet_pure _)

/-- To order values is quiet down to every depth. -/
theorem isQuiet_orderedTo (depth : ℕ) (o : Order) (v w : Value) :
  (orderedTo depth o v w).IsQuiet
  := by
  induction depth generalizing o v w with
  | zero =>
      rw [orderedTo]
      apply isQuiet_throw
  | succ depth ih =>
      rw [orderedTo.eq_def]
      apply isQuiet_ite
      · split
        · apply (isQuiet_compare? _ _ _).map _
        · apply isQuiet_throw
      · apply isQuiet_ite (ih _ _ _)
        apply isQuiet_ite
        · apply (isQuiet_ofResult _).bind
          intro left
          apply (isQuiet_ofResult _).bind
          rintro ⟨shape, ys⟩
          dsimp only
          split
          · apply isQuiet_throw
          · apply isQuiet_comparedPairs (ih o)
        · split
          · apply isQuiet_pure
          · split
            · apply isQuiet_pure
            · apply isQuiet_throw
            · apply isQuiet_pure
            · split
              · apply (isQuiet_firstDifference _ _).bind
                intro rests
                split
                · apply ih
                · apply isQuiet_pure
              · apply isQuiet_throw

@[simp]
theorem isQuiet_isOrdered (o : Order) (v w : Value) :
  (isOrdered o v w).IsQuiet
  := (isQuiet_orderedTo _ o v w).bind fun _ => isQuiet_ofResult _

/-! ### Items and choices -/

/-- To read the items of a value makes expressions of entries and nothing else. -/
@[simp]
theorem isQuiet_items (v : Value) :
  v.items.IsQuiet
  := by
  cases v with
  | list | tuple | dict | frozen | text => apply isQuiet_pure
  | array tag t => apply isQuiet_ite (isQuiet_throw _) (isQuiet_pure _)
  | flags tag shape entries => apply isQuiet_ite (isQuiet_throw _) (isQuiet_pure _)
  | expression tag e =>
      cases e with
      | vector u =>
          apply isQuiet_mapM
          intro e
          apply isQuiet_expression
      | _ => apply isQuiet_throw
  | _ => apply isQuiet_throw

/-- A domain is recognised, or the value is shown in an error. -/
@[simp]
theorem isQuiet_domain (v : Value) :
  (Construct.domain v).IsQuiet
  := by
  rw [Construct.domain.eq_def]
  split
  · apply isQuiet_pure
  · apply (isQuiet_shown _).bind fun _ => isQuiet_throw _

/-- The sense of an objective is recognised, or the value is shown in an error. -/
@[simp]
theorem isQuiet_objectiveSense (v : Value) :
  (Construct.objectiveSense v).IsQuiet
  := by
  rw [Construct.objectiveSense.eq_def]
  split
  · apply isQuiet_pure
  · apply (isQuiet_shown _).bind fun _ => isQuiet_throw _

/-- A name that is no text is shown. -/
@[simp]
theorem isQuiet_label (v : Value) :
  (Construct.label v).IsQuiet
  := by
  rw [Construct.label.eq_def]
  split
  · apply isQuiet_pure
  · apply (isQuiet_shown _).map _

end QuadraticProgram.Session.Act
