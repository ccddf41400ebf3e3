import ReadyPin.Main
import ReadyPin.Api.ClaimLookup
import ReadyPin.Api.Watch
import ReadyPin.Metrics.Exposition
import ReadyPin.Service.Http
import ReadyPin.Proofs.Classes.ClusterMirror
import ReadyPin.Proofs.Classes.Disruptions
import ReadyPin.Proofs.Admission.PatchedReview
import ReadyPin.Proofs.Admission.Relevance
import ReadyPin.Proofs.Admission.ResponseContract
import ReadyPin.Proofs.Policy.DefaultClass
import ReadyPin.Proofs.Policy.Interleaving
import ReadyPin.Proofs.Service.Accounting
import ReadyPin.Proofs.Classes.SharedSet
import ReadyPin.Proofs.Policy.Rule
import ReadyPin.Proofs.Service.WatchMetrics
import ReadyPin.Proofs.Admission.TypeHeader
import ReadyPin.Proofs.Policy.NeededLookups
import ReadyPin.Proofs.Service.Streams
import ReadyPin.Proofs.Api.ClaimAddress
import ReadyPin.Proofs.Readiness.PointerEscape
import ReadyPin.Proofs.Service.Routing
import ReadyPin.Proofs.Metrics.ExpositionRoundTrip
import ReadyPin.Proofs.Api.Resolution
