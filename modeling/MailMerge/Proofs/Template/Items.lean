/-
# Items of templates

A text and its template consist of the same items: texts, variable tags and the tags of
keywords.  The tokens show them in a row (`Item.ofTokens`), a template shows them in the order
of its text (`Template.items`).

Whether tags nest is decided on the row alone, with a stack of the blocks that are open
(`Item.WellNested`).  The items of a template always nest (`Template.wellNested_items`).
-/

import MailMerge.Template.Lexer
import MailMerge.Template.Tree

namespace MailMerge

/-- What a template consists of, in the order of its text. -/
inductive Item where
  | text (s : String)
  | output
  | tag (following : Option Token)
  deriving DecidableEq

namespace Item

/-- The tag of a keyword. -/
def word (k : Keyword) : Item := .tag (some (.keyword k))

/-- The items of a row of tokens: its texts, the starts of its variable tags, and for each start
of a block tag the token that follows it. -/
def ofTokens : List Token → List Item
  | [] => []
  | .text s :: ts => .text s :: ofTokens ts
  | .varStart :: ts => .output :: ofTokens ts
  | .blockStart :: ts => .tag ts.head? :: ofTokens ts
  | _ :: ts => ofTokens ts

end Item

/-- The items of a scan. -/
def Scan.items (scan : Scan) : List Item := Item.ofTokens (scan.lexemes.map (·.token))

mutual

/-- The items of a node: a tag for each keyword its text must have. -/
def Node.items : Node → List Item
  | .text s => [.text s]
  | .output _ => [.output]
  | .set _ _ => [.word .setTag]
  | .branch cases otherwise =>
    .word .ifTag :: (caseItems cases ++ elseItems otherwise ++ [.word .endIfTag])
  | .loop _ _ body otherwise =>
    .word .forTag :: (bodyItems body ++ elseItems otherwise ++ [.word .endForTag])

/-- The items of a list of nodes. -/
def bodyItems : List Node → List Item
  | [] => []
  | node :: nodes => node.items ++ bodyItems nodes

/-- The items of the cases of a branch, from the body of the first one on. -/
def caseItems : List (Expr × List Node) → List Item
  | [] => []
  | (_, body) :: cases => bodyItems body ++ laterItems cases

/-- The items of the further cases of a branch. -/
def laterItems : List (Expr × List Node) → List Item
  | [] => []
  | (_, body) :: cases => .word .elifTag :: (bodyItems body ++ laterItems cases)

/-- The items of what holds otherwise. -/
def elseItems : Option (List Node) → List Item
  | none => []
  | some body => .word .elseTag :: bodyItems body

end

/-- The items of a template in the order of its text. -/
def Template.items (t : Template) : List Item := bodyItems t

/-! ### Tags that nest -/

/-- A block that is open: whether it is a branch or a loop, and whether its `else` was met. -/
inductive Frame where
  | branch | branchElse | loop | loopElse
  deriving DecidableEq, Repr

/-- The blocks that are open behind the tag of a keyword, the innermost one first, if the tag may
stand there. -/
def Keyword.nest? : Keyword → List Frame → Option (List Frame)
  | .ifTag, blocks => some (.branch :: blocks)
  | .forTag, blocks => some (.loop :: blocks)
  | .elifTag, .branch :: blocks => some (.branch :: blocks)
  | .elifTag, _ => none
  | .elseTag, .branch :: blocks => some (.branchElse :: blocks)
  | .elseTag, .loop :: blocks => some (.loopElse :: blocks)
  | .elseTag, _ => none
  | .endIfTag, .branch :: blocks => some blocks
  | .endIfTag, .branchElse :: blocks => some blocks
  | .endIfTag, _ => none
  | .endForTag, .loop :: blocks => some blocks
  | .endForTag, .loopElse :: blocks => some blocks
  | .endForTag, _ => none
  | _, blocks => some blocks

/-- The blocks that are open behind an item. -/
def Item.step? : List Frame → Item → Option (List Frame)
  | blocks, .tag (some (.keyword k)) => k.nest? blocks
  | blocks, _ => some blocks

/-- The blocks that are open behind a row of items. -/
def Item.nest? (items : List Item) (blocks : List Frame) : Option (List Frame) :=
  items.foldlM Item.step? blocks

/-- Items whose tags nest: every tag stands in a block it belongs to, and every block is
closed. -/
def Item.WellNested (items : List Item) : Prop := Item.nest? items [] = some []

instance (items : List Item) : Decidable (Item.WellNested items) :=
  inferInstanceAs (Decidable (_ = _))

namespace Item

variable {blocks blocks' : List Frame} {items items' : List Item} {k : Keyword}

theorem nest?_append (h : nest? items blocks = some blocks') :
    nest? (items ++ items') blocks = nest? items' blocks' := by
  rw [nest?, List.foldlM_append]
  exact (congrArg (· >>= fun blocks => nest? items' blocks) h).trans rfl

theorem nest?_word (h : k.nest? blocks = some blocks') (items : List Item) :
    nest? (word k :: items) blocks = nest? items blocks' := by
  have hword : nest? [word k] blocks = some blocks' := by
    change (k.nest? blocks).bind some = some blocks'
    rw [h, Option.bind_some]
  exact nest?_append hword

end Item

mutual

/-- **The tags of a node nest.** -/
theorem Node.nest?_items (blocks : List Frame) :
    (node : Node) → Item.nest? node.items blocks = some blocks
  | .text _ => rfl
  | .output _ => rfl
  | .set _ _ => rfl
  | .branch cases otherwise => by
    rw [Node.items, Item.nest?_word rfl, List.append_assoc,
      Item.nest?_append (nest?_caseItems blocks cases)]
    exact (nest?_elseItems blocks otherwise).1
  | .loop _ _ body otherwise => by
    rw [Node.items, Item.nest?_word rfl, List.append_assoc,
      Item.nest?_append (nest?_bodyItems _ body)]
    exact (nest?_elseItems blocks otherwise).2

theorem nest?_bodyItems (blocks : List Frame) :
    (nodes : List Node) → Item.nest? (bodyItems nodes) blocks = some blocks
  | [] => rfl
  | node :: nodes => by
    rw [bodyItems, Item.nest?_append (node.nest?_items blocks)]
    exact nest?_bodyItems blocks nodes

theorem nest?_caseItems (blocks : List Frame) : (cases : List (Expr × List Node)) →
    Item.nest? (caseItems cases) (.branch :: blocks) = some (.branch :: blocks)
  | [] => rfl
  | (_, body) :: cases => by
    rw [caseItems, Item.nest?_append (nest?_bodyItems _ body)]
    exact nest?_laterItems blocks cases

theorem nest?_laterItems (blocks : List Frame) : (cases : List (Expr × List Node)) →
    Item.nest? (laterItems cases) (.branch :: blocks) = some (.branch :: blocks)
  | [] => rfl
  | (_, body) :: cases => by
    rw [laterItems, Item.nest?_word rfl, Item.nest?_append (nest?_bodyItems _ body)]
    exact nest?_laterItems blocks cases

/-- What holds otherwise ends either kind of block. -/
theorem nest?_elseItems (blocks : List Frame) : (otherwise : Option (List Node)) →
    Item.nest? (elseItems otherwise ++ [.word .endIfTag]) (.branch :: blocks) = some blocks ∧
    Item.nest? (elseItems otherwise ++ [.word .endForTag]) (.loop :: blocks) = some blocks
  | none => ⟨rfl, rfl⟩
  | some body => by
    constructor
    · rw [elseItems, List.cons_append, Item.nest?_word rfl,
        Item.nest?_append (nest?_bodyItems _ body)]
      rfl
    · rw [elseItems, List.cons_append, Item.nest?_word rfl,
        Item.nest?_append (nest?_bodyItems _ body)]
      rfl

end

/-- **The tags of a template nest.** -/
theorem Template.wellNested_items (t : Template) : Item.WellNested t.items :=
  nest?_bodyItems [] t

end MailMerge
