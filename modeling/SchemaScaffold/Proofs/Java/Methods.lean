import SchemaScaffold.Proofs.Java.Tokens

namespace SchemaScaffold.Java

variable {α β : Type}

abbrev Tokens (α : Type) := List (Token α)

/-! ### Members -/

/-- The members of a type, each with the tokens of its head and of its body. `head` and `body` are
those of the member so far, and `depth` is the number of braces that are open in it. -/
def members (head body : Tokens α) : Nat → Tokens α → List (Tokens α × Tokens α)
  | _, [] => []
  | 0, token :: rest =>
    if token.isMark ';' then (head, []) :: members [] [] 0 rest
    else if token.isMark '\x7b' then members head [] 1 rest
    else if token.isMark '\x7d' then []
    else members (head ++ [token]) [] 0 rest
  | depth + 1, token :: rest =>
    if token.isMark '\x7b' then members head (body ++ [token]) (depth + 2) rest
    else if !token.isMark '\x7d' then members head (body ++ [token]) (depth + 1) rest
    else if depth = 0 then (head, body) :: members [] [] 0 rest
    else members head (body ++ [token]) depth rest

inductive Annotating where
  | outside
  | name
  | behind
  | arguments (depth : Nat)

namespace Annotating

def next (token : Token α) : Annotating → Annotating
  | outside => if token.isMark '@' then name else outside
  | name => behind
  | behind =>
    if token.isMark '(' then arguments 0 else if token.isMark '@' then name else outside
  | arguments depth =>
    if token.isMark '(' then arguments (depth + 1)
    else if !token.isMark ')' then arguments depth
    else if depth = 0 then outside else arguments (depth - 1)

def takes (token : Token α) : Annotating → Bool
  | outside => token.isMark '@'
  | name | arguments _ => true
  | behind => token.isMark '(' || token.isMark '@'

@[simp]
theorem next_map (f : α → β) (token : Token α) (state : Annotating) :
    state.next (token.map f) = state.next token := by
  cases state <;> simp [next]

@[simp]
theorem takes_map (f : α → β) (token : Token α) (state : Annotating) :
    state.takes (token.map f) = state.takes token := by
  cases state <;> simp [takes]

end Annotating

def plainTokens (state : Annotating) : Tokens α → Tokens α
  | [] => []
  | token :: rest =>
    if state.takes token || token.isModifier then plainTokens (state.next token) rest
    else token :: plainTokens (state.next token) rest

/-- The names of annotations. `behindAt` tells that an annotation begins. -/
def annotations (behindAt : Bool) : Tokens α → List α
  | [] => []
  | .word name :: rest => (if behindAt then [name] else []) ++ annotations false rest
  | token :: rest => annotations (token.isMark '@') rest

def between (current : Tokens α) (depth : Nat) : Tokens α → List (Tokens α)
  | [] => if current.isEmpty then [] else [current]
  | token :: rest =>
    if token.isMark ',' && depth == 0 then current :: between [] 0 rest
    else if token.isMark '<' then between (current ++ [token]) (depth + 1) rest
    else if token.isMark '>' then between (current ++ [token]) (depth - 1) rest
    else between (current ++ [token]) depth rest

/-! ### Calls -/

def commas (depth : Nat) : Tokens α → Nat
  | [] => 0
  | token :: rest =>
    if token.isMark '(' then commas (depth + 1) rest
    else if token.isMark ')' then if depth = 0 then 0 else commas (depth - 1) rest
    else if token.isMark ',' && depth == 0 then commas depth rest + 1
    else commas depth rest

def arity : Tokens α → Nat
  | [] => 0
  | token :: rest => if token.isMark ')' then 0 else commas 0 (token :: rest) + 1

structure Call (α : Type) where
  receiver : α
  name : α
  arity : Nat
  deriving DecidableEq

def Call.map (f : α → β) (call : Call α) : Call β where
  receiver := f call.receiver
  name := f call.name
  arity := call.arity

inductive Callee (α : Type) where
  | none
  | object (object : α)
  | access (object : α)
  | method (object name : α)

namespace Callee

def map (f : α → β) : Callee α → Callee β
  | none => none
  | object o => object (f o)
  | access o => access (f o)
  | method o name => method (f o) (f name)

def next : Callee α → Token α → Callee α
  | access o, .word name => method o name
  | _, .word w => object w
  | object o, .mark '.' => access o
  | method _ name, .mark '.' => access name
  | _, _ => none

def call? (rest : Tokens α) : Callee α → Token α → Option (Call α)
  | method receiver name, .mark '(' => some { receiver, name, arity := arity rest }
  | _, _ => Option.none

end Callee

def calls (callee : Callee α) : Tokens α → List (Call α)
  | [] => []
  | token :: rest => (callee.call? rest token).toList ++ calls (callee.next token) rest

/-! ### Methods and fields -/

structure Signature (α : Type) where
  result : Tokens α
  name : α
  parameters : List (Tokens α)
  deriving DecidableEq

def Signature.map (f : α → β) (signature : Signature α) : Signature β where
  result := signature.result.map (Token.map f)
  name := f signature.name
  parameters := signature.parameters.map (List.map (Token.map f))

structure Method (α : Type) where
  annotations : List α
  signature : Signature α
  calls : List (Call α)
  deriving DecidableEq

def Method.map (f : α → β) (method : Method α) : Method β where
  annotations := method.annotations.map f
  signature := method.signature.map f
  calls := method.calls.map (Call.map f)

/-- The signature in a head without annotations and modifiers. A constructor has none, and a field has
none. -/
def Signature.ofHead? (head : Tokens α) : Option (Signature α) :=
  match (head.takeWhile (!·.isMark '(')).reverse, head.dropWhile (!·.isMark '(') with
  | .word name :: result, _ :: behind =>
    if result.isEmpty || result.any (·.isMark '=') then none
    else some {
      result := result.reverse
      name
      parameters := (between [] 0 (behind.takeWhile (!·.isMark ')'))).map List.dropLast }
  | _, _ => none

def Method.ofMember? (member : Tokens α × Tokens α) : Option (Method α) :=
  (Signature.ofHead? (plainTokens .outside member.1)).map fun signature =>
    { annotations := Java.annotations false member.1, signature
      calls := Java.calls .none member.2 }

structure DeclaredField (α : Type) where
  type : Tokens α
  name : α
  deriving DecidableEq

def DeclaredField.map (f : α → β) (field : DeclaredField α) : DeclaredField β where
  type := field.type.map (Token.map f)
  name := f field.name

def DeclaredField.ofMember? (member : Tokens α × Tokens α) : Option (DeclaredField α) :=
  let front := (plainTokens .outside member.1).takeWhile (!·.isMark '=')
  match front.reverse with
  | .word name :: type =>
    if type.isEmpty || front.any (·.isMark '(') then none
    else some { type := type.reverse, name }
  | _ => none

def methodsIn (body : Tokens α) : List (Method α) :=
  (members [] [] 0 body).filterMap Method.ofMember?

def fieldsIn (body : Tokens α) : List (DeclaredField α) :=
  (members [] [] 0 body).filterMap DeclaredField.ofMember?

def methods (source : String) : List (Method String) :=
  methodsIn ((bodyTokens source).map (Token.map String.ofList))

def fields (source : String) : List (DeclaredField String) :=
  fieldsIn ((bodyTokens source).map (Token.map String.ofList))

/-! ### Words are not looked into -/

section

variable (f : α → β)

theorem members_map (head body : Tokens α) (depth : Nat) (tokens : Tokens α) :
    members (head.map (Token.map f)) (body.map (Token.map f)) depth (tokens.map (Token.map f)) =
      (members head body depth tokens).map
        (Prod.map (List.map (Token.map f)) (List.map (Token.map f))) := by
  induction tokens generalizing head body depth with
  | nil => cases depth <;> rfl
  | cons token rest ih =>
      have hhead := fun depth => ih (head ++ [token]) [] depth
      have hbody := fun depth => ih head (body ++ [token]) depth
      have hopen := ih head [] 1
      have hnext := ih [] [] 0
      simp only [List.map_append, List.map_cons, List.map_nil] at hhead hbody hopen hnext
      cases depth with
      | zero =>
          simp only [List.map_cons, members, Token.isMark_map]
          split
          · rw [hnext]; rfl
          · split
            · exact hopen
            · split
              · rfl
              · exact hhead 0
      | succ depth =>
          simp only [List.map_cons, members, Token.isMark_map]
          split
          · exact hbody _
          · split
            · exact hbody _
            · split
              · rw [hnext]; rfl
              · exact hbody _

theorem plainTokens_map (state : Annotating) (tokens : Tokens α) :
    plainTokens state (tokens.map (Token.map f)) =
      (plainTokens state tokens).map (Token.map f) := by
  induction tokens generalizing state with
  | nil => rfl
  | cons token rest ih =>
      simp only [List.map_cons, plainTokens, Annotating.takes_map, Annotating.next_map,
        Token.isModifier_map, ih]
      split <;> rfl

theorem annotations_map (behindAt : Bool) (tokens : Tokens α) :
    annotations behindAt (tokens.map (Token.map f)) = (annotations behindAt tokens).map f := by
  induction tokens generalizing behindAt with
  | nil => rfl
  | cons token rest ih =>
      cases token with
      | word name => cases behindAt <;> simp [annotations, Token.map, ih]
      | modifier => exact ih _
      | mark c => exact ih _

theorem between_map (current : Tokens α) (depth : Nat) (tokens : Tokens α) :
    between (current.map (Token.map f)) depth (tokens.map (Token.map f)) =
      (between current depth tokens).map (List.map (Token.map f)) := by
  induction tokens generalizing current depth with
  | nil => cases current <;> rfl
  | cons token rest ih =>
      have hcurrent := fun depth => ih (current ++ [token]) depth
      have hnext := ih [] 0
      simp only [List.map_append, List.map_cons, List.map_nil] at hcurrent hnext
      simp only [List.map_cons, between, Token.isMark_map]
      split
      · rw [hnext]; rfl
      · split
        · exact hcurrent _
        · split <;> exact hcurrent _

theorem commas_map (depth : Nat) (tokens : Tokens α) :
    commas depth (tokens.map (Token.map f)) = commas depth tokens := by
  induction tokens generalizing depth with
  | nil => rfl
  | cons token rest ih => simp only [List.map_cons, commas, Token.isMark_map, ih]

theorem arity_map (tokens : Tokens α) : arity (tokens.map (Token.map f)) = arity tokens := by
  cases tokens with
  | nil => rfl
  | cons token rest =>
      have hcommas := commas_map f 0 (token :: rest)
      rw [List.map_cons] at hcommas ⊢
      simp only [arity, Token.isMark_map, hcommas]

theorem Callee.next_map (callee : Callee α) (token : Token α) :
    (callee.map f).next (token.map f) = (callee.next token).map f := by
  cases token with
  | modifier => cases callee <;> rfl
  | word w => cases callee <;> rfl
  | mark c =>
      by_cases hc : c = '.'
      · subst hc
        cases callee <;> rfl
      · cases callee <;> simp [next, map, Token.map, hc]

theorem Callee.call?_map (callee : Callee α) (rest : Tokens α) (token : Token α) :
    (callee.map f).call? (rest.map (Token.map f)) (token.map f) =
      (callee.call? rest token).map (Call.map f) := by
  cases token with
  | modifier => cases callee <;> rfl
  | word w => cases callee <;> rfl
  | mark c =>
      by_cases hc : c = '('
      · subst hc
        cases callee <;> simp [call?, map, Token.map, Call.map, arity_map]
      · cases callee <;> simp [call?, map, Token.map, hc]

theorem calls_map (callee : Callee α) (tokens : Tokens α) :
    calls (callee.map f) (tokens.map (Token.map f)) = (calls callee tokens).map (Call.map f) := by
  induction tokens generalizing callee with
  | nil => rfl
  | cons token rest ih =>
      rw [List.map_cons, calls, calls, Callee.call?_map, Callee.next_map, ih, List.map_append]
      cases callee.call? rest token <;> rfl

theorem takeWhile_map_token {p : Token β → Bool} {q : Token α → Bool}
    (h : ∀ token, p (token.map f) = q token) (tokens : Tokens α) :
    (tokens.map (Token.map f)).takeWhile p = (tokens.takeWhile q).map (Token.map f) := by
  rw [List.takeWhile_map]
  exact congrArg (fun p => (tokens.takeWhile p).map _) (funext h)

theorem Signature.ofHead?_map (head : Tokens α) :
    ofHead? (head.map (Token.map f)) = (ofHead? head).map (Signature.map f) := by
  have hfront := takeWhile_map_token f (p := (!·.isMark '(')) (q := (!·.isMark '('))
    (fun token => by simp) head
  have hback : (head.map (Token.map f)).dropWhile (!·.isMark '(') =
      (head.dropWhile (!·.isMark '(')).map (Token.map f) := by
    rw [List.dropWhile_map]
    exact congrArg (fun p => (head.dropWhile p).map _) (funext fun token => by simp)
  rw [ofHead?, ofHead?, hfront, hback, ← List.map_reverse]
  generalize (head.takeWhile (!·.isMark '(')).reverse = front
  generalize head.dropWhile (!·.isMark '(') = back
  rcases front with _ | ⟨_ | name | c, result⟩ <;> rcases back with _ | ⟨_, behind⟩ <;> try rfl
  have hmark : ((·.isMark '=') ∘ Token.map f : Token α → Bool) = (·.isMark '=') :=
    funext fun token => by simp
  have hinside := takeWhile_map_token f (p := (!·.isMark ')')) (q := (!·.isMark ')'))
    (fun token => by simp) behind
  have hbetween := between_map f [] 0 (behind.takeWhile (!·.isMark ')'))
  rw [List.map_nil] at hbetween
  simp only [List.map_cons, Token.map, List.isEmpty_map, List.any_map, hmark, hinside, hbetween]
  split
  · rfl
  · simp [Signature.map, List.map_dropLast]

theorem Method.ofMember?_map (member : Tokens α × Tokens α) :
    ofMember? (member.map (List.map (Token.map f)) (List.map (Token.map f))) =
      (ofMember? member).map (Method.map f) := by
  have hcalls := calls_map f .none member.2
  rw [Callee.map] at hcalls
  rw [ofMember?, ofMember?, Prod.map_fst, Prod.map_snd, plainTokens_map, Signature.ofHead?_map,
    annotations_map, hcalls, Option.map_map, Option.map_map]
  rfl

theorem DeclaredField.ofMember?_map (member : Tokens α × Tokens α) :
    ofMember? (member.map (List.map (Token.map f)) (List.map (Token.map f))) =
      (ofMember? member).map (DeclaredField.map f) := by
  have hmark : ((·.isMark '(') ∘ Token.map f : Token α → Bool) = (·.isMark '(') :=
    funext fun token => by simp
  have hfront := takeWhile_map_token f (p := (!·.isMark '=')) (q := (!·.isMark '='))
    (fun token => by simp) (plainTokens .outside member.1)
  rw [ofMember?, ofMember?, Prod.map_fst, plainTokens_map]
  simp only [hfront, ← List.map_reverse, List.any_map, hmark]
  generalize (plainTokens .outside member.1).takeWhile (!·.isMark '=') = front
  rcases front.reverse with _ | ⟨_ | name | c, type⟩ <;> try rfl
  simp only [List.map_cons, Token.map, List.isEmpty_map]
  split
  · rfl
  · simp [DeclaredField.map]

theorem methodsIn_map (body : Tokens α) :
    methodsIn (body.map (Token.map f)) = (methodsIn body).map (Method.map f) := by
  have hmembers := members_map f [] [] 0 body
  rw [List.map_nil] at hmembers
  rw [methodsIn, hmembers, List.filterMap_map, methodsIn, List.map_filterMap]
  exact congrArg (List.filterMap · _) (funext fun member => Method.ofMember?_map f member)

theorem fieldsIn_map (body : Tokens α) :
    fieldsIn (body.map (Token.map f)) = (fieldsIn body).map (DeclaredField.map f) := by
  have hmembers := members_map f [] [] 0 body
  rw [List.map_nil] at hmembers
  rw [fieldsIn, hmembers, List.filterMap_map, fieldsIn, List.map_filterMap]
  exact congrArg (List.filterMap · _) (funext fun member => DeclaredField.ofMember?_map f member)

end

/-- The members that a source declares are those that are read off its tokens. -/
theorem members_of_bodyTokens {chars : α → List Char} {source : String} {body : Tokens α}
    (h : bodyTokens source = body.map (Token.map chars)) :
    methods source = (methodsIn body).map (Method.map fun word => String.ofList (chars word)) ∧
      fields source =
        (fieldsIn body).map (DeclaredField.map fun word => String.ofList (chars word)) := by
  have htokens : (bodyTokens source).map (Token.map String.ofList) =
      body.map (Token.map fun word => String.ofList (chars word)) := by
    rw [h, List.map_map]
    refine List.map_congr_left fun token _ => ?_
    cases token <;> rfl
  rw [methods, fields, htokens, methodsIn_map, fieldsIn_map]
  exact ⟨rfl, rfl⟩

end SchemaScaffold.Java
