import Barrage.Export.K6
import Barrage.Proofs.Statements
import Barrage.Proofs.Tokens
import Barrage.Script.OfUrl
import Barrage.Load.Validation

/-! What test files do.
The default function performs the steps in their order, each as one call and one check, and sleeps.
Nothing of a step is code: what stands in a call is quoted. A comment names the method and the URL
as they are, so they have to be on one line. -/

namespace Barrage.K6

theorem isPlain_of_isDigit {c : Char} (h : c.isDigit = true) : isPlain c = true := by
  have apart (d : Char) (other : d.isDigit = false) : c ≠ d := Decimal.ne_of_isDigit h other
  simp [isPlain, closer?, isCloser, apart '(' rfl, apart ')' rfl, apart '[' rfl, apart ']' rfl,
    apart '\x7b' rfl, apart '\x7d' rfl, apart '/' rfl, apart '"' rfl, apart '\'' rfl,
    apart '\x60' rfl, apart ';' rfl]

theorem passes_number (n : Nat) : Passes (toString n).toList := by
  refine .plain (List.all_eq_true.2 fun c member => isPlain_of_isDigit ?_)
  exact Decimal.isDigit_of_mem_toString member

theorem passes_commaList {ts : List (List Char)} (h : ∀ t ∈ ts, Passes t) :
    Passes (commaList ts) := by
  induction ts with
  | nil => exact .nil
  | cons t rest ih =>
    cases rest with
    | nil => exact h t List.mem_cons_self
    | cons u rest =>
      have comma : Passes [',', ' '] := .plain (by decide)
      have later := ih fun v member => h v (List.mem_cons_of_mem t member)
      exact (h t List.mem_cons_self).append (comma.append later)

theorem passes_headerText (e : String × String) : Passes (headerText e) := by
  have colon : Passes [':', ' '] := .plain (by decide)
  exact (Passes.quote e.1).append (colon.append (.quote e.2))

theorem passes_argument (a : Argument) : Passes a.text := by
  cases a with
  | literal s => exact .quote s
  | null => exact .plain (by decide)
  | headers h =>
    have blank : Passes [' '] := .plain (by decide)
    have name : Passes " headers: ".toList := .plain (by decide)
    have entries : Passes (commaList (h.entries.map headerText)) := by
      refine passes_commaList fun t member => ?_
      obtain ⟨e, -, rfl⟩ := List.mem_map.1 member
      exact passes_headerText e
    have inner := Passes.brackets (o := '\x7b') rfl (blank.append (entries.append blank))
    have outer := Passes.brackets (o := '\x7b') rfl (name.append (inner.append blank))
    have text : (Argument.headers h).text = "\x7b headers: \x7b ".toList ++
        commaList (h.entries.map headerText) ++ " \x7d \x7d".toList := rfl
    rw [text]
    simpa using outer
  | noParameters => exact Passes.brackets (o := '\x7b') rfl .nil

theorem call_function (s : Step) :
    (call s).function ∈ bodilessMethods ∨ (call s).function ∈ bodyMethods.map functionName ∨
      (call s).function = "request" := by
  unfold call
  dsimp only
  split
  · next bodiless => exact .inl bodiless
  split
  · next withBody =>
    dsimp only
    exact .inr (.inl (List.mem_map_of_mem withBody))
  · exact .inr (.inr rfl)

theorem passes_function (s : Step) : Passes (call s).function.toList := by
  have bodiless : ∀ m ∈ bodilessMethods, m.toList.all isPlain = true := by decide
  have withBody : ∀ m ∈ bodyMethods.map functionName, m.toList.all isPlain = true := by decide
  have request : "request".toList.all isPlain = true := by decide
  obtain h | h | h := call_function s
  · exact .plain (bodiless _ h)
  · exact .plain (withBody _ h)
  · rw [h]
    exact .plain request

theorem passes_call (s : Step) : Passes (call s).text := by
  have http : Passes "http.".toList := .plain (by decide)
  have arguments : Passes (commaList ((call s).arguments.map Argument.text)) := by
    refine passes_commaList fun t member => ?_
    obtain ⟨a, -, rfl⟩ := List.mem_map.1 member
    exact passes_argument a
  have whole := http.append ((passes_function s).append (.brackets (o := '(') rfl arguments))
  have text : (call s).text = "http.".toList ++ (call s).function.toList ++
      '(' :: commaList ((call s).arguments.map Argument.text) ++ [')'] := rfl
  rw [text]
  rwa [List.append_assoc, List.append_assoc]

def comment (i : Nat) (s : Step) : String :=
  " Step " ++ toString (i + 1) ++ ": " ++ Text.upper s.method ++ " " ++ s.url

def callStatement (i : Nat) (s : Step) : String :=
  "const res" ++ toString i ++ " = " ++ String.ofList (call s).text

def checkStatement (i : Nat) : String :=
  "check(res" ++ toString i ++ ", \x7b\n" ++
    "    \"status is 2xx\": (r) => r.status >= 200 && r.status < 300,\n  \x7d)"

theorem toList_unlines (ls : List String) :
    (unlines ls).toList = ls.flatMap fun l => l.toList ++ ['\n'] := by
  rw [unlines, String.toList_join, List.flatMap_map]
  simp

theorem block_eq (i : Nat) (s : Step) :
    block i s = "\n  //" ++ comment i s ++ "\n  " ++ callStatement i s ++ ";\n  " ++
      checkStatement i ++ ";\n" := by
  apply String.toList_inj.1
  unfold block comment callStatement checkStatement
  rw [toList_unlines]
  simp

/-- The texts of a step that stand in its comment have no end of a line. -/
def OnOneLine (s : Step) : Prop := ∀ c ∈ s.method.toList ++ s.url.toList, isLineEnd c = false

theorem isLine_of_all {t : List Char} (h : t.all (fun c => !isLineEnd c) = true) :
    ∀ c ∈ t, isLineEnd c = false := by simpa using h

instance (s : Step) : Decidable (OnOneLine s) :=
  decidable_of_iff ((s.method.toList ++ s.url.toList).all (fun c => !isLineEnd c) = true)
    ⟨isLine_of_all, fun h => List.all_eq_true.2 fun c member => by rw [h c member]; rfl⟩

theorem isLineEnd_toUpper (c : Char) : isLineEnd c.toUpper = isLineEnd c := by
  by_cases small : 'a'.val ≤ c.val ∧ c.val ≤ 'z'.val
  · -- there is no end of a line among the letters of either case
    have letters : ∀ n < 26, isLineEnd (Char.ofNat (97 + n)).toUpper = false ∧
        isLineEnd (Char.ofNat (97 + n)) = false := by decide
    have low : 97 ≤ c.toNat := small.1
    have high : c.toNat ≤ 122 := small.2
    have place : 97 + (c.toNat - 97) = c.toNat := by omega
    have both := letters (c.toNat - 97) (by omega)
    rw [place, Char.ofNat_toNat] at both
    rw [both.1, both.2]
  · exact congrArg isLineEnd (dif_neg small)

theorem comment_isLine_iff (i : Nat) (s : Step) :
    (∀ c ∈ (comment i s).toList, isLineEnd c = false) ↔ OnOneLine s := by
  have number : ∀ c ∈ (toString (i + 1)).toList, isLineEnd c = false := by
    intro c member
    have digit := Decimal.isDigit_of_mem_toString member
    have range : 48 ≤ c.toNat ∧ c.toNat ≤ 57 := Char.isDigit_iff_toNat.1 digit
    have apart (d : Char) (other : d.isDigit = false) : c ≠ d := Decimal.ne_of_isDigit digit other
    simp only [isLineEnd, apart '\n' rfl, apart '\r' rfl, decide_false, Bool.or_self,
      Bool.false_or, Bool.or_eq_false_iff, decide_eq_false_iff_not]
    omega
  have step : ∀ c ∈ " Step ".toList, isLineEnd c = false := isLine_of_all (by decide)
  have colon : ∀ c ∈ ": ".toList, isLineEnd c = false := isLine_of_all (by decide)
  have blank : ∀ c ∈ " ".toList, isLineEnd c = false := isLine_of_all (by decide)
  unfold comment OnOneLine
  simp only [String.toList_append, List.forall_mem_append, Text.toList_upper, List.forall_mem_map,
    isLineEnd_toUpper, iff_true_intro step, iff_true_intro colon, iff_true_intro blank,
    iff_true_intro number, true_and, and_true]

theorem functionBody_call (i : Nat) (s : Step) (rest : List Char) :
    functionBody ((callStatement i s).toList ++ ';' :: rest) =
      (functionBody rest).map fun (more, after) => ((callStatement i s).toList :: more, after) := by
  have const : Passes "onst res".toList := .plain (by decide)
  have equals : Passes " = ".toList := .plain (by decide)
  have tail := const.append ((passes_number i).append (equals.append (passes_call s)))
  have text : (callStatement i s).toList = 'c' ::
      ("onst res".toList ++ ((toString i).toList ++ (" = ".toList ++ (call s).text))) := by
    unfold callStatement
    simp
  rw [text]
  exact run_statement (by decide) (by decide) tail rest

theorem functionBody_check (i : Nat) (rest : List Char) :
    functionBody ((checkStatement i).toList ++ ';' :: rest) =
      (functionBody rest).map fun (more, after) => ((checkStatement i).toList :: more, after) := by
  have name : Passes "heck".toList := .plain (by decide)
  have response : Passes "res".toList := .plain (by decide)
  have comma : Passes ", ".toList := .plain (by decide)
  have before : Passes "\n    ".toList := .plain (by decide)
  have label := Passes.quote "status is 2xx"
  have colon : Passes ": ".toList := .plain (by decide)
  have parameter := Passes.brackets (o := '(') rfl (.plain (t := ['r']) (by decide))
  have test : Passes " => r.status >= 200 && r.status < 300,\n  ".toList := .plain (by decide)
  have object := Passes.brackets (o := '\x7b') rfl
    (before.append (label.append (colon.append (parameter.append test))))
  have arguments := Passes.brackets (o := '(') rfl
    (response.append ((passes_number i).append (comma.append object)))
  have quoted : Json.quote "status is 2xx" = "\"status is 2xx\"".toList := by decide
  have text : (checkStatement i).toList = 'c' :: ("heck".toList ++ ('(' :: ("res".toList ++
      ((toString i).toList ++ (", ".toList ++ ('\x7b' :: ("\n    ".toList ++
        (Json.quote "status is 2xx" ++ (": ".toList ++ (['(', 'r'] ++ [')'] ++
          " => r.status >= 200 && r.status < 300,\n  ".toList)))) ++ ['\x7d'])))) ++ [')'])) := by
    rw [quoted]
    unfold checkStatement
    simp
  rw [text]
  exact run_statement (by decide) (by decide) (name.append arguments) rest

theorem functionBody_newline (rest : List Char) :
    functionBody ('\n' :: ' ' :: ' ' :: rest) = functionBody rest := by
  rw [run_blank (by decide) (by decide), run_blank (by decide) (by decide),
    run_blank (by decide) (by decide)]

def stepCode (i : Nat) (s : Step) (rest : List Char) : List Char :=
  '\n' :: ' ' :: ' ' :: ((callStatement i s).toList ++ ';' ::
    '\n' :: ' ' :: ' ' :: ((checkStatement i).toList ++ ';' :: '\n' :: rest))

theorem functionBody_stepCode (i : Nat) (s : Step) (rest : List Char) :
    functionBody (stepCode i s rest) = (functionBody rest).map fun (more, after) =>
      ((callStatement i s).toList :: (checkStatement i).toList :: more, after) := by
  rw [stepCode, functionBody_newline, functionBody_call, functionBody_newline, functionBody_check,
    run_blank (by decide) (by decide), Option.map_map]
  rfl

theorem toList_block (i : Nat) (s : Step) (rest : List Char) :
    (block i s).toList ++ rest =
      '\n' :: ' ' :: ' ' :: ('/' :: '/' :: (comment i s).toList ++ stepCode i s rest) := by
  rw [block_eq, stepCode]
  simp

theorem functionBody_block {i : Nat} {s : Step} (oneLine : OnOneLine s) (rest : List Char) :
    functionBody ((block i s).toList ++ rest) = functionBody (stepCode i s rest) := by
  have comments := (comment_isLine_iff i s).2 oneLine
  obtain ⟨code, starts⟩ : ∃ code, stepCode i s rest = '\n' :: code := ⟨_, rfl⟩
  rw [toList_block, functionBody_newline, starts, run_comment comments (by decide),
    run_blank (by decide) (by decide)]

theorem functionBody_block_broken {i : Nat} {s : Step} {line more : List Char} {e : Char}
    (broken : (comment i s).toList = line ++ e :: more)
    (oneLine : ∀ c ∈ line, isLineEnd c = false) (ends : isLineEnd e = true) (rest : List Char) :
    functionBody ((block i s).toList ++ rest) = functionBody (more ++ stepCode i s rest) := by
  have layout : '/' :: '/' :: (comment i s).toList ++ stepCode i s rest =
      '/' :: '/' :: line ++ e :: (more ++ stepCode i s rest) := by
    rw [broken]
    simp
  rw [toList_block, functionBody_newline, layout, run_comment oneLine ends]

def statements (i : Nat) : List Step → List String
  | [] => ["sleep(1)"]
  | s :: rest => callStatement i s :: checkStatement i :: statements (i + 1) rest

theorem functionBody_blocks {steps : List Step} (lines : ∀ s ∈ steps, OnOneLine s) (i : Nat) :
    functionBody (blocks i steps ++ closing).toList =
      some ((statements i steps).map String.toList, ['\n']) := by
  induction steps generalizing i with
  | nil =>
    have ending : functionBody closing.toList = some (["sleep(1)".toList], ['\n']) := by
      decide +kernel
    rw [blocks, String.empty_append, ending]
    rfl
  | cons s rest ih =>
    have later := ih (fun t member => lines t (List.mem_cons_of_mem s member)) (i + 1)
    rw [String.toList_append] at later
    rw [blocks, String.toList_append, String.toList_append, List.append_assoc,
      functionBody_block (lines s List.mem_cons_self), functionBody_stepCode, later]
    rfl

theorem opening_eq (p : Plan) :
    ∃ start, opening p = start ++ "export default function () \x7b\n" := by
  obtain ⟨ls, whole, last⟩ : ∃ ls, opening p = unlines ls ∧
      ls.getLast? = some "export default function () \x7b" := ⟨_, rfl, rfl⟩
  obtain ⟨before, rfl⟩ := List.getLast?_eq_some_iff.1 last
  refine ⟨unlines before, String.toList_inj.1 ?_⟩
  rw [whole, String.toList_append, toList_unlines, toList_unlines, List.flatMap_append]
  simp

/-- The default function of a test file runs one call and one check for each step, in their order,
and then the pause, if no method and no URL goes over the end of a line. Exactly then the comment of
each step, which names both, is a line of its own. -/
theorem exported_statements (s : Script) (p : Plan) (lines : ∀ t ∈ s.steps, OnOneLine t) :
    (∃ start body, opening p = start ++ "export default function () \x7b\n" ∧
      file s p = opening p ++ body ∧
      functionBody body.toList = some ((statements 0 s.steps).map String.toList, ['\n'])) ∧
    ∀ i t, block i t = "\n  //" ++ comment i t ++ "\n  " ++ callStatement i t ++ ";\n  " ++
        checkStatement i ++ ";\n" ∧
      ((∀ c ∈ (comment i t).toList, isLineEnd c = false) ↔ OnOneLine t) := by
  obtain ⟨start, head⟩ := opening_eq p
  refine ⟨⟨start, blocks 0 s.steps ++ closing, head, ?_, functionBody_blocks lines 0⟩,
    fun i t => ⟨block_eq i t, comment_isLine_iff i t⟩⟩
  rw [file, String.append_assoc]

/-- Texts that look like code, a comment and the end of a literal. -/
theorem exported_statements_quoted :
    let s : Script :=
      ⟨"s", [Step.get "http://h/?a;//b", ⟨.http, "post", "http://h/", {}, some "\");\n"⟩]⟩
    ∃ body, file s ⟨"s", .load, 10, 30⟩ = opening ⟨"s", .load, 10, 30⟩ ++ body ∧
      functionBody body.toList = some ((["const res0 = http.get(\"http://h/?a;//b\")",
        checkStatement 0, "const res1 = http.post(\"http://h/\", \"\\\");\\n\")",
        checkStatement 1, "sleep(1)"]).map String.toList, ['\n']) := by
  intro s
  have lines : ∀ t ∈ s.steps, OnOneLine t := by decide
  obtain ⟨⟨start, body, -, whole, found⟩, -⟩ := exported_statements s ⟨"s", .load, 10, 30⟩ lines
  have first : callStatement 0 (Step.get "http://h/?a;//b") =
      "const res0 = http.get(\"http://h/?a;//b\")" := by decide +kernel
  have second : callStatement 1 ⟨.http, "post", "http://h/", {}, some "\");\n"⟩ =
      "const res1 = http.post(\"http://h/\", \"\\\");\\n\")" := by decide +kernel
  have all : statements 0 s.steps = _ := rfl
  rw [all, statements, statements, statements, first, second] at found
  exact ⟨body, whole, found⟩

/-- A URL that goes over the end of a line is taken for a script, which is fit to run, and its next
line is a statement of the test file. -/
theorem exported_url_is_run :
    let s : Script := ⟨"id", [Step.get "http://[::1]/\nalert(1);"]⟩
    Script.ofUrl "id" "http://[::1]/\nalert(1);" = .ok s ∧ s.check = .ok () ∧
      (∃ c ∈ (comment 0 (Step.get "http://[::1]/\nalert(1);")).toList, isLineEnd c = true) ∧
      ∀ p : Plan, ∃ body, file s p = opening p ++ body ∧
        functionBody body.toList =
          some (("alert(1)" :: statements 0 s.steps).map String.toList, ['\n']) ∧
        functionBody body.toList ≠ some ((statements 0 s.steps).map String.toList, ['\n']) := by
  intro s
  have found : functionBody (blocks 0 s.steps ++ closing).toList =
      some (("alert(1)" :: statements 0 s.steps).map String.toList, ['\n']) := by
    have broken : (comment 0 (Step.get "http://[::1]/\nalert(1);")).toList =
        " Step 1: GET http://[::1]/".toList ++ '\n' :: "alert(1);".toList := by decide +kernel
    have name : Passes "lert".toList := .plain (by decide)
    have call := name.append (.brackets (o := '(') rfl (.plain (t := ['1']) (by decide)))
    have injected (code : List Char) : functionBody ("alert(1);".toList ++ code) =
        (functionBody code).map fun (more, after) => ("alert(1)".toList :: more, after) := by
      have text : "alert(1);".toList ++ code =
          'a' :: ("lert".toList ++ ('(' :: ['1'] ++ [')'])) ++ ';' :: code := by simp
      rw [text]
      exact run_statement (by decide) (by decide) call code
    have ending : functionBody (blocks 1 [] ++ closing).toList = _ :=
      functionBody_blocks (by simp) 1
    rw [String.toList_append] at ending
    rw [blocks, String.toList_append, String.toList_append, List.append_assoc,
      functionBody_block_broken broken (isLine_of_all (by decide)) (by decide), injected,
      functionBody_stepCode, ending]
    rfl
  have made : Script.ofUrl "id" "http://[::1]/\nalert(1);" = .ok s :=
    eq_ok_of_toOption (by decide +kernel)
  refine ⟨made, by rfl, ⟨'\n', by decide +kernel, by decide⟩, fun p => ⟨_, ?_, found, ?_⟩⟩
  · rw [file, String.append_assoc]
  · rw [found]
    simp

end Barrage.K6
