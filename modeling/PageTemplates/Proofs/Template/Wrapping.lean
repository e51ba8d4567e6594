import PageTemplates.Proofs.Template.Simulation

/-!
# Text around a call

A template that is literal text around `{{ content() }}` is followed through the three stages: how it
is cut into tokens, what is read from these, and what the tree writes. The text comes out as it is,
and so does what the call gives, if that is a safe text.
-/

namespace PageTemplates.Template

/-! ## Cutting -/

section
variable {cs tagged body : List Char} {n line : Nat}

/-- Text without opening braces is literal up to a tag or to the end. -/
theorem beforeTag_append (h : '\x7b' ∉ cs) (ht : tagged = [] ∨ (tag? tagged).isSome) :
    beforeTag (cs ++ tagged) = (cs, tagged) := by
  induction cs with
  | nil =>
    cases tagged with
    | nil => rfl
    | cons c tagged =>
      obtain ⟨t, ht⟩ := Option.isSome_iff_exists.1 (ht.resolve_left (by simp))
      rw [List.nil_append, beforeTag, ht]
  | cons c cs ih =>
    have hc : c ≠ '\x7b' := fun hc => h (hc ▸ List.mem_cons_self)
    have hnone : tag? (c :: (cs ++ tagged)) = none := by
      unfold tag?
      split <;> simp_all
    rw [List.cons_append, beforeTag, hnone, ih fun hcs => h (List.mem_cons_of_mem c hcs)]

namespace Scan

/-- The token of a literal text, unless the text is empty. -/
def textTokens (cs : List Char) (line : Nat) : List Located :=
  if cs.isEmpty then [] else [⟨.text (String.ofList cs), line⟩]

/-- A scan with a literal text before it. -/
def afterText (cs : List Char) (line : Nat) (rest : Scan) : Scan :=
  { rest with tokens := textTokens cs line ++ rest.tokens }

theorem go_text (h : '\x7b' ∉ cs) : go (n + 1) (.outside false) line cs = afterText cs line done := by
  have hsplit : beforeTag cs = (cs, []) := by simpa using beforeTag_append h (.inl rfl)
  cases cs with
  | nil => simp [go, beforeTag, afterText, textTokens]
  | cons c cs => simp [go, hsplit, afterText, textTokens, lineEnds, after]

theorem go_expression (h : '\x7b' ∉ cs) (hmark : blankMark body = (false, body)) :
    go (n + 1) (.outside false) line (cs ++ '\x7b' :: '\x7b' :: body) =
      afterText cs line (after .expressionStart (line + lineEnds cs)
        (go n (.expression 0) (line + lineEnds cs) body)) := by
  have hsplit : beforeTag (cs ++ '\x7b' :: '\x7b' :: body) = (cs, '\x7b' :: '\x7b' :: body) :=
    beforeTag_append h (.inr rfl)
  have hnone : lineEnds [] = 0 := rfl
  cases cs with
  | nil => simp [go, beforeTag, tag?, hmark, afterText, textTokens, hnone]
  | cons c cs =>
    rw [List.cons_append] at hsplit
    simp [go, hsplit, tag?, hmark, afterText, textTokens, hnone, after]

/-- The inside of the tag, and the tag's end. -/
theorem go_call :
    go (n + 6) (.expression 0) line (" content() \x7d\x7d".toList ++ cs) =
      after (.word "content") line (after (.symbol .parenOpen) line
        (after (.symbol .parenClose) line (after .expressionEnd line
          (go n (.outside false) line cs)))) := by
  simp [go, Text.isAsciiBlank, blankMark, symbol?, Symbol.spelled, Text.afterStart?, isWordChar,
    Symbol.opening]

end Scan

end

/-! ## Reading -/

namespace Reader

variable {α β : Type} {x : Reader α} {operand : Reader Expression} {f : α → Reader β}
  {r r' r'' : Reading} {a : α} {b : β}
  {t : Located} {e e' : Expression} {ns : List Node} {rest : List Located} {ends : List String}
  {n line start : Nat}

/-- A reader gives a result and stops somewhere. -/
def Reads (x : Reader α) (r : Reading) (a : α) (r' : Reading) : Prop := x r = .ok a r'

theorem Reads.bind (h : Reads x r a r') (hf : Reads (f a) r' b r'') : Reads (x >>= f) r b r'' := by
  have h : x r = .ok a r' := h
  show EStateM.bind x f r = _
  rw [EStateM.bind, h]
  exact hf

theorem Reads.pure : Reads (Pure.pure a) r a r := rfl

/-! ### Tokens -/

theorem reads_peek? (h : r.rest = t :: rest) : Reads peek? r (some t) r := by
  obtain ⟨_, _, _, _, _, _⟩ := r
  obtain rfl := h
  rfl

theorem reads_next? (h : r.rest = t :: rest) :
    Reads next? r (some t) { r with rest, lastLine := t.line } := by
  obtain ⟨_, _, _, _, _, _⟩ := r
  obtain rfl := h
  rfl

theorem reads_next {wanted : String} (h : r.rest = t :: rest) :
    Reads (next wanted) r t { r with rest, lastLine := t.line } :=
  (reads_next? h).bind .pure

theorem reads_line : Reads Reader.line r (r.rest.head?.elim r.lastLine (·.line)) r := rfl

theorem Reads.discard (h : Reads x r a r') : Reads (discard x) r () r' := by
  have h : x r = .ok a r' := h
  show EStateM.map _ x r = _
  rw [EStateM.map, h]

theorem reads_peekSymbol_of_ne {s : Symbol} (h : r.rest = t :: rest) (ht : t.token ≠ .symbol s) :
    Reads (peekSymbol s) r false r := by
  refine (reads_peek? h).bind ?_
  obtain ⟨token, line⟩ := t
  cases token with
  | symbol s' =>
    have hs : (s' == s) = false := by simpa using ht
    exact congrArg (EStateM.Result.ok · r) hs
  | _ => exact .pure

theorem reads_peekWord_of_ne {w : String} (h : r.rest = t :: rest) (ht : t.token ≠ .word w) :
    Reads (peekWord w) r false r := by
  refine (reads_peek? h).bind ?_
  obtain ⟨token, line⟩ := t
  cases token with
  | word w' =>
    have hw : (w' == w) = false := by simpa using ht
    exact congrArg (EStateM.Result.ok · r) hw
  | _ => exact .pure

theorem reads_skipSymbol_of_ne {s : Symbol} (h : r.rest = t :: rest) (ht : t.token ≠ .symbol s) :
    Reads (skipSymbol s) r false r :=
  (reads_peekSymbol_of_ne h ht).bind .pure

theorem reads_skipWord_of_ne {w : String} (h : r.rest = t :: rest) (ht : t.token ≠ .word w) :
    Reads (skipWord w) r false r :=
  (reads_peekWord_of_ne h ht).bind .pure

theorem reads_peekSymbol {s : Symbol} (h : r.rest = ⟨.symbol s, line⟩ :: rest) :
    Reads (peekSymbol s) r true r := by
  refine (reads_peek? h).bind ?_
  exact congrArg (EStateM.Result.ok · r) (beq_self_eq_true s)

theorem reads_skipSymbol {s : Symbol} (h : r.rest = ⟨.symbol s, line⟩ :: rest) :
    Reads (skipSymbol s) r true { r with rest, lastLine := line } :=
  (reads_peekSymbol h).bind ((reads_next? h).discard.bind .pure)

theorem reads_expectSymbol {s : Symbol} (h : r.rest = ⟨.symbol s, line⟩ :: rest) :
    Reads (expectSymbol s) r () { r with rest, lastLine := line } := by
  refine (reads_next h).bind ?_
  dsimp only
  rw [beq_self_eq_true, if_pos rfl]
  exact .pure

theorem reads_expectExpressionEnd (h : r.rest = ⟨.expressionEnd, line⟩ :: rest) :
    Reads expectExpressionEnd r () { r with rest, lastLine := line } :=
  (reads_next h).bind .pure

/-! ### What ends an expression -/

/-- The end of the tag stands next. -/
def Closes (r : Reading) : Prop := ∃ line rest, r.rest = ⟨.expressionEnd, line⟩ :: rest

namespace Closes

theorem skipSymbol (h : Closes r) (s : Symbol) : Reads (skipSymbol s) r false r := by
  obtain ⟨line, rest, h⟩ := h
  exact reads_skipSymbol_of_ne h nofun

theorem skipWord (h : Closes r) (w : String) : Reads (skipWord w) r false r := by
  obtain ⟨line, rest, h⟩ := h
  exact reads_skipWord_of_ne h nofun

theorem peekSymbol (h : Closes r) (s : Symbol) : Reads (peekSymbol s) r false r := by
  obtain ⟨line, rest, h⟩ := h
  exact reads_peekSymbol_of_ne h nofun

theorem leftGrouped {operator? : Token → Option Operator} (h : Closes r)
    (hop : operator? .expressionEnd = none) :
    Reads (leftGrouped operand operator? start (n + 1) e) r e r := by
  obtain ⟨line, rest, h⟩ := h
  refine (reads_peek? h).bind ?_
  rw [Option.bind_some, hop]
  exact .pure

theorem comparisons (h : Closes r) : Reads (comparisons operand (n + 1)) r ([], []) r := by
  have hword := h.skipWord "not"
  obtain ⟨line, rest, h⟩ := h
  exact (reads_peek? h).bind (hword.bind .pure)

theorem conditional (h : Closes r) : Reads (conditional (n + 1) start e) r e r := by
  rw [Reader.conditional]
  exact (h.skipWord "if").bind .pure

theorem disjunctionTail (h : Closes r) : Reads (disjunctionTail (n + 1) start e) r e r := by
  rw [Reader.disjunctionTail]
  exact (h.skipWord "or").bind .pure

theorem conjunctionTail (h : Closes r) : Reads (conjunctionTail (n + 1) start e) r e r := by
  rw [Reader.conjunctionTail]
  exact (h.skipWord "and").bind .pure

theorem suffixes (h : Closes r) : Reads (suffixes (n + 1) start e) r e r := by
  rw [Reader.suffixes]
  exact (h.skipSymbol .dot).bind ((h.skipSymbol .bracketOpen).bind
    ((h.peekSymbol .parenOpen).bind .pure))

theorem filters (h : Closes r) : Reads (filters (n + 1) e) r e r := by
  rw [Reader.filters]
  exact (h.skipSymbol .pipe).bind ((h.skipWord "is").bind .pure)

end Closes

/-! ### Operands -/

/-- An operand of one rank, after which no operator of that rank stands. -/
theorem Closes.rank {operator? : Token → Option Operator} (hr : Closes r')
    (hop : operator? .expressionEnd = none) (h : Reads operand r e r') :
    Reads (do Reader.leftGrouped operand operator? (← Reader.line) (n + 1) (← operand)) r e r' :=
  reads_line.bind (h.bind (hr.leftGrouped hop))

/-- An operand alone in a tag is read through all ranks of operators. -/
theorem reads_expression (hr : Closes r') (hnot : Reads (skipWord "not") r false r)
    (h : Reads (signed (n + 1)) r e r') : Reads (expression (n + 10)) r e r' := by
  have hpowers : Reads (powers (n + 2)) r e r' := by
    rw [powers]
    exact hr.rank rfl h
  have hproduct : Reads (product (n + 3)) r e r' := by
    rw [product]
    exact hr.rank rfl hpowers
  have hjoined : Reads (joined (n + 4)) r e r' := by
    rw [joined]
    exact hr.rank rfl hproduct
  have hsum : Reads (sum (n + 5)) r e r' := by
    rw [sum]
    exact hr.rank rfl hjoined
  have hcomparison : Reads (comparison (n + 6)) r e r' := by
    rw [comparison]
    exact reads_line.bind (hsum.bind (hr.comparisons.bind .pure))
  have hnegation : Reads (negation (n + 7)) r e r' := by
    rw [negation]
    exact reads_line.bind (hnot.bind hcomparison)
  have hconjunction : Reads (conjunction (n + 8)) r e r' := by
    rw [conjunction]
    exact reads_line.bind (hnegation.bind hr.conjunctionTail)
  have hdisjunction : Reads (disjunction (n + 9)) r e r' := by
    rw [disjunction]
    exact reads_line.bind (hconjunction.bind hr.disjunctionTail)
  have hget : Reads get r' r' r' := rfl
  rw [expression]
  exact hdisjunction.bind (hget.bind hr.conditional)

/-- What the inside of the tag is read as. -/
def contentCall (line : Nat) : Expression := .call (.name "content" line) [] [] [] line

theorem reads_sign (h : r.rest = ⟨.word "content", line⟩ :: rest) :
    Reads (sign (n + 2)) r (.name "content" line) { r with rest, lastLine := line } := by
  have hminus : Reads (skipSymbol .minus) r false r := reads_skipSymbol_of_ne h nofun
  rw [sign]
  refine reads_line.bind (hminus.bind ?_)
  rw [primary]
  refine (reads_next h).bind ?_
  simp only
  exact .pure

theorem reads_arguments
    (h : r.rest = ⟨.symbol .parenOpen, line⟩ :: ⟨.symbol .parenClose, line⟩ :: rest) :
    Reads (arguments (n + 2)) r {} { r with rest, lastLine := line } := by
  rw [arguments]
  refine (reads_expectSymbol h).bind ?_
  rw [argumentsTail]
  exact (reads_skipSymbol rfl).bind .pure

theorem reads_suffixes (hr : Closes { r with rest, lastLine := line })
    (h : r.rest = ⟨.symbol .parenOpen, line⟩ :: ⟨.symbol .parenClose, line⟩ :: rest) :
    Reads (suffixes (n + 3) line (.name "content" line)) r (contentCall line)
      { r with rest, lastLine := line } := by
  have hdot : Reads (skipSymbol .dot) r false r := reads_skipSymbol_of_ne h nofun
  have hbracket : Reads (skipSymbol .bracketOpen) r false r := reads_skipSymbol_of_ne h nofun
  rw [suffixes]
  exact hdot.bind (hbracket.bind ((reads_peekSymbol h).bind ((reads_arguments h).bind hr.suffixes)))

theorem reads_contentCall (hr : Closes { r with rest, lastLine := line })
    (h : r.rest = ⟨.word "content", line⟩ :: ⟨.symbol .parenOpen, line⟩ ::
      ⟨.symbol .parenClose, line⟩ :: rest) :
    Reads (expression (n + 13)) r (contentCall line) { r with rest, lastLine := line } := by
  have hline : Reads Reader.line r line r := by simpa [h] using reads_line (r := r)
  have hnot : Reads (skipWord "not") r false r := reads_skipWord_of_ne h (by simp)
  have hsuffixes := reads_suffixes (n := n) (r := { r with
    rest := ⟨.symbol .parenOpen, line⟩ :: ⟨.symbol .parenClose, line⟩ :: rest, lastLine := line })
    hr rfl
  refine reads_expression hr hnot ?_
  rw [signed]
  exact hline.bind ((reads_sign h).bind (hsuffixes.bind hr.filters))

/-! ### Nodes -/

/-- These tokens, with nothing wrong after them, are read as these nodes, if the reading may go that
deep. No block is among them. -/
def ReadAs (tokens : List Located) (depth : Nat) (ns : List Node) : Prop :=
  ∀ r : Reading, r.rest = tokens → r.trouble = none → ∀ n, depth ≤ n →
    ∃ r', Reads (nodes n []) r ns r' ∧ r'.blocks = r.blocks

/-- The node of a literal text, unless the text is empty. -/
def textNodes (cs : List Char) : List Node :=
  if cs.isEmpty then [] else [.text (String.ofList cs)]

namespace ReadAs

variable {tokens : List Located} {depth : Nat} {cs : List Char}

theorem nil : ReadAs [] 1 [] := by
  intro r hr htrouble n hn
  obtain ⟨n, rfl⟩ := Nat.exists_eq_add_of_le' hn
  obtain ⟨_, _, _, _, _, _⟩ := r
  obtain rfl := hr
  obtain rfl := htrouble
  refine ⟨_, ?_, rfl⟩
  rw [nodes]
  rfl

theorem text (h : ReadAs tokens depth ns) (cs : List Char) (line : Nat) :
    ReadAs (Scan.textTokens cs line ++ tokens) (depth + 1) (textNodes cs ++ ns) := by
  intro r hr htrouble n hn
  by_cases hcs : cs.isEmpty
  · rw [Scan.textTokens, if_pos hcs] at hr
    rw [textNodes, if_pos hcs]
    exact h r hr htrouble n (by omega)
  · rw [Scan.textTokens, if_neg hcs] at hr
    rw [textNodes, if_neg hcs]
    obtain ⟨n, rfl⟩ := Nat.exists_eq_add_of_le' (show 1 ≤ n by omega)
    obtain ⟨r', hread, hblocks⟩ :=
      h { r with rest := tokens, lastLine := line } rfl htrouble n (by omega)
    refine ⟨r', ?_, hblocks⟩
    rw [nodes]
    exact (reads_next? hr).bind (hread.bind .pure)

theorem call (h : ReadAs tokens depth ns) (line : Nat) :
    ReadAs (⟨.expressionStart, line⟩ :: ⟨.word "content", line⟩ :: ⟨.symbol .parenOpen, line⟩ ::
      ⟨.symbol .parenClose, line⟩ :: ⟨.expressionEnd, line⟩ :: tokens) (depth + 14)
      (.print (contentCall line) line :: ns) := by
  intro r hr htrouble n hn
  obtain ⟨n, rfl⟩ := Nat.exists_eq_add_of_le' (show 14 ≤ n by omega)
  obtain ⟨r', hread, hblocks⟩ :=
    h { r with rest := tokens, lastLine := line } rfl htrouble (n + 13) (by omega)
  refine ⟨r', ?_, hblocks⟩
  rw [nodes]
  exact (reads_next? hr).bind ((reads_contentCall ⟨line, tokens, rfl⟩ rfl).bind
    ((reads_expectExpressionEnd rfl).bind (hread.bind .pure)))

end ReadAs

end Reader

theorem read_eq_ok {name source : String} {depth : Nat} {ns : List Node}
    (h : Reader.ReadAs (Scan.ofText source).tokens depth ns)
    (htrouble : (Scan.ofText source).trouble = none)
    (hdepth : depth ≤ readingDepth (Scan.ofText source).tokens.length) :
    read name source = .ok ⟨⟨name, ns⟩, []⟩ := by
  obtain ⟨r, hread, hblocks⟩ := h
    ⟨(Scan.ofText source).tokens, (Scan.ofText source).trouble, 0, [], [], false⟩ rfl htrouble _
    hdepth
  unfold Reader.Reads at hread
  simp [read, hread, hblocks]

/-- A template that is text around the call is read as the text and the call. -/
theorem read_around_call (name : String) {source : String} {before after : List Char}
    (hbefore : '\x7b' ∉ before) (hafter : '\x7b' ∉ after) (hsource : source.toList =
      before ++ '\x7b' :: '\x7b' :: (" content() \x7d\x7d".toList ++ after)) :
    ∃ line, read name source = .ok ⟨⟨name, Reader.textNodes before ++
      .print (Reader.contentCall line) line :: Reader.textNodes after⟩, []⟩ := by
  let line := 1 + lineEnds before
  have hlength : source.toList.length + 1 = before.length + after.length + 8 + 1 + 6 + 1 := by
    rw [hsource]
    simp
    omega
  have hscan : Scan.ofText source = Scan.afterText before 1 (.after .expressionStart line
      (.after (.word "content") line (.after (.symbol .parenOpen) line
        (.after (.symbol .parenClose) line (.after .expressionEnd line
          (Scan.afterText after line .done)))))) := by
    show Scan.go (source.toList.length + 1) (.outside false) 1 source.toList = _
    rw [hlength, hsource, Scan.go_expression hbefore rfl, Scan.go_call, Scan.go_text hafter]
  have htokens := ((Reader.ReadAs.nil.text after line).call line).text before 1
  rw [List.append_nil, List.append_nil] at htokens
  have hread : Reader.ReadAs (Scan.ofText source).tokens 17 (Reader.textNodes before ++
      .print (Reader.contentCall line) line :: Reader.textNodes after) := by
    rw [hscan]
    simpa [Scan.afterText, Scan.after, Scan.done] using htokens
  have htrouble : (Scan.ofText source).trouble = none := by
    rw [hscan]
    rfl
  refine ⟨line, read_eq_ok hread htrouble ?_⟩
  unfold readingDepth
  omega

/-! ## Running -/

section
variable {σ : Type} {host : Host σ} {library : Library} {scene : Scene σ} {m m' : Machine σ}
  {cs before after : List Char} {ns : List Node} {body name : String} {t : Template} {line : Nat}
  {context : List (String × Value)} {world : σ}

/-- The machine with a text written. -/
def Machine.wrote (s : String) (m : Machine σ) : Machine σ := { m with output := m.output ++ s }

theorem execAll_text (cs : List Char)
    (h : execAll scene ns (m.wrote (String.ofList cs)) = .ok () m') :
    execAll scene (Reader.textNodes cs ++ ns) m = .ok () m' := by
  by_cases hcs : cs.isEmpty
  · obtain rfl := List.isEmpty_iff.1 hcs
    simpa [Reader.textNodes, Machine.wrote] using h
  · rw [Reader.textNodes, if_neg hcs]
    have htext : (Node.text (String.ofList cs)).exec scene m =
      .ok () (m.wrote (String.ofList cs)) := rfl
    exact (Eval.bind_ok htext).trans h

theorem Machine.based_start : Based context (Machine.start name t context world).frames := rfl

/-- At the start no scope binds a name. -/
theorem Machine.bound?_start (id : String) :
    (Machine.start name t context world).bound? id = none := rfl

/-- So it denotes what it does in the context, or else in the library. -/
theorem Machine.lookup?_start (id : String) :
    (Machine.start name t context world).lookup? library id =
      (context.lookup id).or (library.global? id) := by
  rw [Machine.lookup?_of_based Machine.based_start, Machine.bound?_start, Option.none_or]

/-- A call without arguments is one of what the name denotes, unless calls of the name are reserved
for blocks or loops. -/
theorem eval_call {id : String} {f : Value} {start : Nat} (hsuper : id ≠ "super")
    (hloop : id ≠ "loop") (h : m.lookup? scene.library id = some f) :
    (Expression.call (.name id start) [] [] [] line).eval scene m =
      callValue scene line f [] m := by
  rw [Expression.eval]
  have hargs : evalAll scene [] m = .ok [] m := rfl
  have hget : (get : Eval σ (Machine σ)) m = .ok m m := rfl
  refine (Eval.bind_ok hargs).trans ((Eval.bind_ok hargs).trans ?_)
  rw [if_neg hsuper, if_neg hloop]
  refine (Eval.bind_ok hget).trans ?_
  rw [h]
  rfl

theorem eval_contentCall {f : Value} (h : m.lookup? scene.library "content" = some f) :
    (Reader.contentCall line).eval scene m = callValue scene line f [] m :=
  eval_call (by decide) (by decide) h

/-- A safe text is written as it is, whether texts are escaped or not. -/
theorem exec_contentCall
    (hcontent : m.lookup? scene.library "content" = some (.thunk (.text body true))) :
    (Node.print (Reader.contentCall line) line).exec scene m = .ok () (m.wrote body) := by
  have heval : (Reader.contentCall line).eval scene m = .ok (.text body true) m :=
    eval_contentCall hcontent
  rw [Reader.contentCall] at heval ⊢
  rw [Node.exec]
  · exact Eval.bind_ok heval
  · simp
  · simp

/-- A template that is text around the call writes the text and what the call gives. -/
theorem render_around_call (host : Host σ) (world : σ) (ht : library.template? name = some t)
    (hnodes : t.body.nodes =
      Reader.textNodes before ++ .print (Reader.contentCall line) line :: Reader.textNodes after)
    (hcontent : context.lookup "content" = some (.thunk (.text body true))) :
    render host library name context world =
      ⟨String.ofList before ++ body ++ String.ofList after, none, world⟩ := by
  let scene : Scene σ := ⟨host, library, run host library (depthLimit + 11)⟩
  let start := { Machine.start name t context world with template := t.body.template }
  let shown := start.wrote (String.ofList before)
  have hlookup : shown.lookup? library "content" = some (.thunk (.text body true)) := by
    simp [shown, start, Machine.wrote, Machine.lookup?, Machine.start, Frame.lookup?, hcontent]
  have hafter : execAll scene (Reader.textNodes after) (shown.wrote body) =
      .ok () ((shown.wrote body).wrote (String.ofList after)) := by
    have hend : execAll scene [] ((shown.wrote body).wrote (String.ofList after)) =
      .ok () ((shown.wrote body).wrote (String.ofList after)) := rfl
    simpa using execAll_text after hend
  have hrun : execAll scene t.body.nodes start =
      .ok () ((shown.wrote body).wrote (String.ofList after)) := by
    rw [hnodes]
    exact execAll_text before ((Eval.bind_ok (exec_contentCall hlookup)).trans hafter)
  have hlimit : enteringLimit = depthLimit + 11 + 1 := rfl
  rw [render, ht, hlimit]
  dsimp only
  rw [run_ok hrun rfl]
  simp [Machine.wrote, start, shown, Machine.start]

end

end PageTemplates.Template
