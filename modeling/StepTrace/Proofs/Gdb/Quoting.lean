import StepTrace.Gdb.Command

set_option autoImplicit false

namespace StepTrace.Gdb

mutual
-- The words of the debugger. One that starts with a double quote is a string literal, any other runs
-- to the next space.
def debuggerWords? : List Char → Option (List (List Char))
  | [] => some []
  | c :: rest =>
      if c = ' ' then debuggerWords? rest
      else if c = '"' then inLiteral? [] rest
      else inBareWord? [c] rest

def inBareWord? (word : List Char) : List Char → Option (List (List Char))
  | [] => some [word]
  | c :: rest =>
      if c = ' ' then (debuggerWords? rest).map (word :: ·) else inBareWord? (word ++ [c]) rest

def inLiteral? (word : List Char) : List Char → Option (List (List Char))
  | [] => none
  | c :: rest =>
      if c = '"' then afterLiteral? word rest
      else if c = '\\' then afterBackslash? word rest
      else inLiteral? (word ++ [c]) rest

def afterBackslash? (word : List Char) : List Char → Option (List (List Char))
  | [] => none
  | c :: rest => if c = '\\' ∨ c = '"' then inLiteral? (word ++ [c]) rest else none

def afterLiteral? (word : List Char) : List Char → Option (List (List Char))
  | [] => some [word]
  | c :: rest => if c = ' ' then (debuggerWords? rest).map (word :: ·) else none
end

-- What a shell takes for more than itself outside quotes. The equals sign and the percent sign are
-- special only in front of the command and as the name of a job.
def shellMarks : List Char := " \t\n'\"\\|&;<>()$`*?[]#~!^\x7b\x7d".toList

mutual
-- The words of a shell that has only single quotes and backslashes, and refuses all other marks.
def shellWords? : List Char → Option (List (List Char))
  | [] => some []
  | c :: rest =>
      if c = ' ' then shellWords? rest
      else if c = '\'' then inSingleQuotes? [] rest
      else if c = '\\' then escapedChar? [] rest
      else if c ∈ shellMarks then none
      else inShellWord? [c] rest

def inShellWord? (word : List Char) : List Char → Option (List (List Char))
  | [] => some [word]
  | c :: rest =>
      if c = ' ' then (shellWords? rest).map (word :: ·)
      else if c = '\'' then inSingleQuotes? word rest
      else if c = '\\' then escapedChar? word rest
      else if c ∈ shellMarks then none
      else inShellWord? (word ++ [c]) rest

def inSingleQuotes? (word : List Char) : List Char → Option (List (List Char))
  | [] => none
  | c :: rest =>
      if c = '\'' then inShellWord? word rest else inSingleQuotes? (word ++ [c]) rest

def escapedChar? (word : List Char) : List Char → Option (List (List Char))
  | [] => none
  | c :: rest => inShellWord? (word ++ [c]) rest
end

def shellForm (arg : String) : List Char :=
  if !arg.isEmpty && arg.toList.all isPlain then arg.toList else shellQuoted arg.toList

theorem plain_unmarked (c : Char) (plain : isPlain c = true) : c ∉ shellMarks := by
  have marks : (shellMarks.all fun mark => !isPlain mark) = true := by decide +kernel
  intro member
  have special := List.all_eq_true.mp marks c member
  rw [plain] at special
  exact absurd special (by decide)

theorem plain_form (arg : String) (plain : (!arg.isEmpty && arg.toList.all isPlain) = true) :
    arg.toList ≠ [] ∧ ∀ c ∈ arg.toList, isPlain c = true := by
  simpa using plain

theorem quote_argument_form (arg : String) :
    (quoteArgument arg).toList =
      if !arg.isEmpty && arg.toList.all isPlain then shellForm arg else literalQuoted (shellForm arg) := by
  rw [quoteArgument, shellForm]
  split
  · rfl
  · rw [String.toList_ofList]

-- A reader that takes each written word off the front, up to the space after it or to the end, reads
-- all of them.
theorem words_joined {α : Type} (read : List Char → Option (List (List Char)))
    (written word : α → List Char) (none : read [] = some [])
    (last : ∀ a, read (written a) = some [word a])
    (next : ∀ a rest, read (written a ++ ' ' :: rest) = (read rest).map (word a :: ·)) (as : List α) :
    read ([' '].intercalate (as.map written)) = some (as.map word) := by
  induction as with
  | nil => exact none
  | cons a as ih =>
      cases as with
      | nil => simpa [List.intercalate] using last a
      | cons b as =>
          have joined : [' '].intercalate ((a :: b :: as).map written) =
              written a ++ ' ' :: [' '].intercalate ((b :: as).map written) := by
            simp [List.intercalate]
          rw [joined, next, ih]
          rfl

section Debugger

theorem bare_word_read (word cs rest : List Char) (unbroken : ' ' ∉ cs) :
    inBareWord? word (cs ++ rest) = inBareWord? (word ++ cs) rest := by
  induction cs generalizing word with
  | nil => rw [List.nil_append, List.append_nil]
  | cons c cs ih =>
      obtain ⟨other, later⟩ := not_or.mp (mt List.mem_cons.mpr unbroken)
      rw [List.cons_append, inBareWord?, if_neg (Ne.symm other), ih _ later, List.append_assoc]
      rfl

theorem literal_read (word cs rest : List Char) :
    inLiteral? word (cs.flatMap (fun c => if c = '\\' ∨ c = '"' then ['\\', c] else [c]) ++ '"' :: rest) =
      afterLiteral? (word ++ cs) rest := by
  induction cs generalizing word with
  | nil => simp [inLiteral?]
  | cons c cs ih =>
      have later := ih (word ++ [c])
      rw [List.append_assoc] at later
      rw [List.flatMap_cons, List.append_assoc]
      by_cases special : c = '\\' ∨ c = '"'
      · rw [if_pos special, List.cons_append, inLiteral?, if_neg (by decide), if_pos rfl,
          List.cons_append, afterBackslash?, if_pos special, List.nil_append]
        exact later
      · obtain ⟨backslash, quote⟩ := not_or.mp special
        rw [if_neg special, List.cons_append, inLiteral?, if_neg quote, if_neg backslash,
          List.nil_append]
        exact later

theorem debugger_bare_word (cs rest : List Char) (nonempty : cs ≠ [])
    (plain : ∀ c ∈ cs, isPlain c = true) : debuggerWords? (cs ++ rest) = inBareWord? cs rest := by
  obtain ⟨c, more, rfl⟩ := List.exists_cons_of_ne_nil nonempty
  have unmarked : ∀ mark ∈ shellMarks, mark ∉ c :: more := fun mark special member =>
    plain_unmarked mark (plain mark member) special
  have space : ' ' ∉ c :: more := unmarked ' ' (by decide +kernel)
  have quote : '"' ∉ c :: more := unmarked '"' (by decide +kernel)
  rw [List.mem_cons, not_or] at space quote
  rw [List.cons_append, debuggerWords?, if_neg (Ne.symm space.1), if_neg (Ne.symm quote.1),
    bare_word_read _ _ _ space.2]
  rfl

theorem debugger_literal (cs rest : List Char) :
    debuggerWords? (literalQuoted cs ++ rest) = afterLiteral? cs rest := by
  rw [literalQuoted, List.cons_append, List.cons_append, debuggerWords?, if_neg (by decide), if_pos rfl,
    List.append_assoc, List.singleton_append, literal_read, List.nil_append]

-- At its end, a bare word is as good as a literal.
theorem bare_word_ends (word rest : List Char) (ends : ∀ c, rest.head? = some c → c = ' ') :
    inBareWord? word rest = afterLiteral? word rest := by
  cases rest with
  | nil => rw [inBareWord?, afterLiteral?]
  | cons c rest =>
      obtain rfl := ends c rfl
      rw [inBareWord?, if_pos rfl, afterLiteral?, if_pos rfl]

theorem debugger_word (arg : String) (rest : List Char) (ends : ∀ c, rest.head? = some c → c = ' ') :
    debuggerWords? ((quoteArgument arg).toList ++ rest) = afterLiteral? (shellForm arg) rest := by
  rw [quote_argument_form]
  split
  · rename_i plain
    obtain ⟨nonempty, chars⟩ := plain_form arg plain
    rw [shellForm, if_pos plain, debugger_bare_word _ _ nonempty chars, bare_word_ends _ _ ends]
  · exact debugger_literal _ _

theorem debugger_reads_forms (args : List String) :
    debuggerWords? ([' '].intercalate (args.map fun arg => (quoteArgument arg).toList)) =
      some (args.map shellForm) := by
  refine words_joined debuggerWords? _ shellForm ?_ ?_ ?_ args
  · rw [debuggerWords?]
  · intro arg
    have read := debugger_word arg [] (by simp)
    rwa [List.append_nil, afterLiteral?] at read
  · intro arg rest
    rw [debugger_word arg (' ' :: rest) (by simp), afterLiteral?, if_pos rfl]

end Debugger

section Shell

theorem shell_word_read (word cs rest : List Char) (plain : ∀ c ∈ cs, isPlain c = true) :
    inShellWord? word (cs ++ rest) = inShellWord? (word ++ cs) rest := by
  induction cs generalizing word with
  | nil => rw [List.nil_append, List.append_nil]
  | cons c cs ih =>
      have unmarked := plain_unmarked c (plain c List.mem_cons_self)
      have other : c ≠ ' ' ∧ c ≠ '\'' ∧ c ≠ '\\' := by
        refine ⟨?_, ?_, ?_⟩ <;> (rintro rfl; exact unmarked (by decide +kernel))
      obtain ⟨space, quote, backslash⟩ := other
      rw [List.cons_append, inShellWord?, if_neg space, if_neg quote, if_neg backslash, if_neg unmarked,
        ih _ fun d member => plain d (List.mem_cons_of_mem c member), List.append_assoc]
      rfl

-- A quote is read from between two quoted texts, as the escaped character there.
theorem single_quotes_read (word cs rest : List Char) :
    inSingleQuotes? word
        (cs.flatMap (fun c => if c = '\'' then ['\'', '\\', '\'', '\''] else [c]) ++ '\'' :: rest) =
      inShellWord? (word ++ cs) rest := by
  induction cs generalizing word with
  | nil => simp [inSingleQuotes?]
  | cons c cs ih =>
      have later := ih (word ++ [c])
      rw [List.append_assoc] at later
      rw [List.flatMap_cons, List.append_assoc]
      by_cases quote : c = '\''
      · subst quote
        simpa [inSingleQuotes?, inShellWord?, escapedChar?] using later
      · rw [if_neg quote, List.singleton_append, inSingleQuotes?, if_neg quote]
        exact later

theorem shell_word (arg : String) (rest : List Char) :
    shellWords? (shellForm arg ++ rest) = inShellWord? arg.toList rest := by
  rw [shellForm]
  split
  · rename_i plain
    obtain ⟨nonempty, chars⟩ := plain_form arg plain
    -- Before a plain character it is all the same whether a word has begun.
    have begins : shellWords? (arg.toList ++ rest) = inShellWord? [] (arg.toList ++ rest) := by
      obtain ⟨c, more, text⟩ := List.exists_cons_of_ne_nil nonempty
      have space : c ≠ ' ' := by
        rintro rfl
        exact plain_unmarked ' ' (chars ' ' (by simp [text])) (by decide +kernel)
      rw [text, List.cons_append, shellWords?, inShellWord?, if_neg space, if_neg space]
      rfl
    rw [begins, shell_word_read _ _ _ chars, List.nil_append]
  · rw [shellQuoted, List.cons_append, List.cons_append, List.append_assoc, List.singleton_append,
      shellWords?, if_neg (by decide), if_pos rfl, single_quotes_read, List.nil_append]

theorem shell_reads_arguments (args : List String) :
    shellWords? ([' '].intercalate (args.map shellForm)) = some (args.map String.toList) := by
  refine words_joined shellWords? shellForm String.toList ?_ ?_ ?_ args
  · rw [shellWords?]
  · intro arg
    have read := shell_word arg []
    rwa [List.append_nil, inShellWord?] at read
  · intro arg rest
    rw [shell_word, inShellWord?, if_pos rfl]

end Shell

def argumentsText (args : List String) : String :=
  " ".intercalate (args.map quoteArgument)

theorem arguments_read_back (args : List String) :
    argumentsCommand args = "-exec-arguments " ++ argumentsText args ∧
      ∃ words, debuggerWords? (argumentsText args).toList = some words ∧
        words.length = args.length ∧
        shellWords? ([' '].intercalate words) = some (args.map String.toList) := by
  have joined : (argumentsText args).toList =
      [' '].intercalate (args.map fun arg => (quoteArgument arg).toList) := by
    rw [argumentsText, String.toList_intercalate, List.map_map]
    rfl
  refine ⟨rfl, args.map shellForm, ?_, List.length_map _, shell_reads_arguments args⟩
  rw [joined, debugger_reads_forms]

example :
    quoteArgument "it's \\ \"$HOME\"" = "\"'it'\\\\''s \\\\ \\\"$HOME\\\"'\"" := by decide +kernel

end StepTrace.Gdb
