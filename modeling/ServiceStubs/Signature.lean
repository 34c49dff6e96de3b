import ServiceStubs.Model

/-!
# Signatures

How the table of a service names a method, its request and its response, and which kind of call
the method needs.
-/

namespace ServiceStubs

/-- A type reference marked as a stream. -/
def streamOf (typeName : String) : String :=
  "stream(\"" ++ typeName ++ "\")"

/-- A type qualified with the top module, and marked when it is streamed. -/
def qualifiedType (typeName topModule : String) (streamed : Bool) : String :=
  let qualified := topModule ++ "." ++ Name.canonical typeName
  if streamed then streamOf qualified else "\"" ++ qualified ++ "\""

namespace Rpc

/-- The table entry of a method. -/
def signature (rpc : Rpc) (topModule : String) : String :=
  "rpc(\"" ++ rpc.method ++ "\", " ++
    qualifiedType rpc.request topModule rpc.requestStreamed ++ ", " ++
    qualifiedType rpc.response topModule rpc.responseStreamed ++ ")"

/-- The kind of call a method needs, request before response. -/
def callKind (rpc : Rpc) : String :=
  (if rpc.requestStreamed then "stream" else "unary") ++ "_" ++
    (if rpc.responseStreamed then "stream" else "unary")

end Rpc

end ServiceStubs
