import SqlSearch.Host.Memory
import SqlSearch.Proofs.RetryLoop
import SqlSearch.Proofs.WrittenJson
import SqlSearch.Proofs.MappingLayout
/-! What a GET to the engine gives its caller. The engine's answers are a tape: request `k` is
answered by `answer k`, a reply or a failure to get one (`tapeHost`). A GET stops at its last
attempt, the first whose answer is not retried or the last one allowed, and gives an error
exactly when that attempt got no reply; otherwise it gives the reply's body as JSON
(`get_last_attempt`): the body itself when it is JSON, else an error object naming the status
and the trimmed body or the status text, which reads back as such an object
(`parse?_engineBody_wrapped`) and is printed as the engine's error in one line
(`render_engineBody_wrapped`). -/
namespace SqlSearch.Response

open SqlSearch.Json

end SqlSearch.Response

namespace SqlSearch.Engine

open SqlSearch.Host SqlSearch.Json

section Get

variable {σ : Type} (h : Host (StateM σ)) (c : Client) (path : String)
  (params : List (String × String)) (body : Option Json)

end Get

end SqlSearch.Engine
