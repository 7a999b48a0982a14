/-!
# Progress

What has become of something that runs until it has to wait: it is done, with a result,
or it waits, and has to be run again later.
-/

namespace KnxIp

/-- **How far something has got.** -/
inductive Progress (α β : Type)
  | done (result : α)
  | waiting (rest : β)
  deriving DecidableEq

namespace Progress

/-- The progress with the result and the rest put another way. -/
def map {α α' β β' : Type} (f : α → α') (g : β → β') : Progress α β → Progress α' β'
  | .done a => .done (f a)
  | .waiting b => .waiting (g b)

/-- What has to be run again later. -/
def rest? {α β : Type} : Progress α β → Option β
  | .done _ => none
  | .waiting rest => some rest

@[simp] theorem rest?_done {α β : Type} (a : α) : (.done a : Progress α β).rest? = none := rfl

@[simp] theorem rest?_waiting {α β : Type} (b : β) :
    (.waiting b : Progress α β).rest? = some b := rfl

@[simp] theorem rest?_map {α α' β β' : Type} (f : α → α') (g : β → β') (p : Progress α β) :
    (p.map f g).rest? = p.rest?.map g := by
  cases p <;> rfl

end Progress

end KnxIp
