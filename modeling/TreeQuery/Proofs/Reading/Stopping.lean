import TreeQuery.Proofs.Reading.Naming

/-!
# Where reading stops

A failure without a reason of its own stands behind tokens that can be continued,
and before one that cannot be among their continuations.
-/

namespace TreeQuery.Reading

section

variable {dialect : Dialect} {language language' : Language Token}
  {cursor : Cursor} {fault : Fault} {source : String}
  {before before' rest : List Token} {failure : SyntaxFailure}

end

end TreeQuery.Reading
