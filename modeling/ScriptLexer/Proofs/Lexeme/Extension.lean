import ScriptLexer.Proofs.Lexeme.Boundary

/-!
# A line that goes on behind a break

The lexeme at the start of a line does not change when the line goes on, provided it goes on with a
break.  No form of lexeme looks beyond a break: a literal is already closed, a number and a name stop
in front of it, and no operator has a blank in it.
-/

namespace ScriptLexer

variable {line rest : Text}

/-! ## Single forms -/

/-- A literal is closed before the line goes on. -/
lemma Literal.read?_extend {l : Literal} (h : read? line = some (.ok l)) (hrest : rest.Breaks) :
    read? (line ++ rest) = some (.ok l) := by
  obtain ⟨hspelled, behind, rfl, hbehind⟩ := standsAt_of_read? h
  refine read?_of_standsAt ⟨hspelled, behind ++ rest, List.append_assoc _ _ _, ?_⟩
  cases behind with
  | nil => exact hrest.head?_ne l.quote.isBlank_char
  | cons c behind => exact hbehind

namespace Number

lemma doubleDot_extend (c : Char) (t : Text) (hrest : rest.Breaks) :
    doubleDot (c :: (t ++ rest)) = doubleDot (c :: t) := by
  cases t with
  | nil =>
    refine Bool.eq_false_iff.2 fun hdots => ?_
    exact hrest.head?_ne (by decide) (doubleDot_cons_iff.1 hdots).2
  | cons d t => rfl

lemma continuation_extend (t : Text) (hrest : rest.Breaks) :
    continuation (t ++ rest) = continuation t := by
  fun_induction continuation t with
  | case1 => exact continuation_of_breaks hrest
  | case2 c r hdots => rw [List.cons_append, continuation, doubleDot_extend c r hrest, if_pos hdots]
  | case3 c r hdots hc ih =>
    rw [List.cons_append, continuation, doubleDot_extend c r hrest, if_neg hdots, if_pos hc, ih]
  | case4 c r hdots hc =>
    rw [List.cons_append, continuation, doubleDot_extend c r hrest, if_neg hdots, if_neg hc]

lemma begins_extend (h : begins line = true) (rest : Text) : begins (line ++ rest) = true := by
  cases line with
  | nil => simp [begins] at h
  | cons c t =>
    cases t with
    | nil => exact begins_cons_of_isDigit h rest
    | cons d t => exact h

lemma lexeme_extend (h : begins line = true) (hrest : rest.Breaks) :
    lexeme (line ++ rest) = lexeme line := by
  have hleading : leading (line ++ rest) = leading line := by
    cases line with
    | nil => simp [begins] at h
    | cons c t =>
      rw [List.cons_append, leading, leading, doubleDot_extend c t hrest,
        continuation_extend t hrest]
  unfold lexeme
  rw [hleading]

end Number

lemma Name.leading_extend (hne : line ≠ []) (hrest : rest.Breaks) :
    leading (line ++ rest) = leading line := by
  obtain ⟨c, t, rfl⟩ := List.exists_cons_of_ne_nil hne
  have hstop : rest.takeWhile isPart = [] :=
    takeWhile_isPart_eq_nil fun _ hb => hrest.isPart_eq_false hb
  show c :: (t ++ rest).takeWhile isPart = c :: t.takeWhile isPart
  rw [List.takeWhile_append, hstop]
  split_ifs with hall
  · rw [List.append_nil, (List.takeWhile_prefix isPart).eq_of_length hall]
  · rfl

lemma Word.read?_extend (table : Table) (hne : line ≠ []) (hrest : rest.Breaks) :
    read? table (line ++ rest) = read? table line := by
  unfold read?
  rw [Name.leading_extend hne hrest]

namespace Symbol

/-- No entry begins the line only because it goes on. -/
lemma longest?_extend {entries : List (Operator × Text)} (hrest : rest.Breaks)
    (hentries : ∀ entry ∈ entries, ∀ c ∈ entry.2, isBlank c = false) :
    longest? entries (line ++ rest) = longest? entries line := by
  suffices ∀ best, entries.foldl (better (line ++ rest)) best = entries.foldl (better line) best from
    this none
  induction entries with
  | nil => exact fun _ => rfl
  | cons entry entries ih =>
    intro best
    obtain ⟨hentry, hothers⟩ := List.forall_mem_cons.1 hentries
    have hiff : entry.2.isPrefixOf (line ++ rest) = entry.2.isPrefixOf line := by
      rw [Bool.eq_iff_iff, List.isPrefixOf_iff_prefix, List.isPrefixOf_iff_prefix]
      exact ⟨fun h => prefix_of_prefix_append h hrest hentry,
        fun h => h.trans (List.prefix_append line rest)⟩
    have hbetter : better (line ++ rest) best entry = better line best entry := by
      unfold better
      rw [hiff]
    rw [List.foldl_cons, List.foldl_cons, hbetter]
    exact ih hothers _

lemma read?_extend {table : Table} (htable : table.Blankless) (caseless : Bool)
    (hrest : rest.Breaks) : read? table caseless (line ++ rest) = read? table caseless line := by
  have hentries : ∀ entry ∈ table.operators caseless, ∀ c ∈ entry.2, isBlank c = false := by
    intro entry hentry
    rw [Table.mem_operators hentry]
    exact htable _
  unfold read?
  rw [longest?_extend hrest hentries]

end Symbol

/-! ## Lexemes -/

/-- The lexeme at the start of a line is the same if the line goes on behind a break. -/
lemma Lexeme.read_extend {table : Table} {caseless : Bool} {l : Lexeme} (htable : table.Blankless)
    (h : read table caseless line = .ok l) (hrest : rest.Breaks) :
    read table caseless (line ++ rest) = .ok l := by
  obtain ⟨htext, hbegin⟩ := text_of_read h
  have hne : line ≠ [] := by
    rintro rfl
    exact htext (List.prefix_nil.1 hbegin)
  refine read_of_form ?_
  cases form_of_read h with
  | literal hliteral => exact Form.literal (Literal.read?_extend hliteral hrest)
  | number hliteral hnumber =>
    rw [← Number.lexeme_extend hnumber hrest]
    exact Form.number (Literal.read?_append_eq_none hliteral hne List.prefix_rfl hrest)
      (Number.begins_extend hnumber rest)
  | word hliteral hnumber hname hword =>
    rw [← Word.read?_extend table hne hrest] at hword
    refine Form.word (Literal.read?_append_eq_none hliteral hne List.prefix_rfl hrest)
      (Number.begins_append_eq_false hnumber hne List.prefix_rfl hrest) ?_ hword
    exact Name.begins_append hname rest
  | symbol hliteral hnumber hname hsymbol =>
    rw [← Symbol.read?_extend htable caseless hrest] at hsymbol
    exact Form.symbol (Literal.read?_append_eq_none hliteral hne List.prefix_rfl hrest)
      (Number.begins_append_eq_false hnumber hne List.prefix_rfl hrest)
      (Name.begins_append_eq_false hname hne List.prefix_rfl) hsymbol

end ScriptLexer
