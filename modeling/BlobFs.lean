import BlobFs.Main
import BlobFs.Proofs.File.Failure
import BlobFs.Proofs.Glob.Beginning
import BlobFs.Proofs.Glob.Found
import BlobFs.Proofs.Glob.Pages
import BlobFs.Proofs.Isolation
import BlobFs.Proofs.Resolve.Credentials
import BlobFs.Proofs.Resolve.Description
import BlobFs.Proofs.Session.LifeCycle
import BlobFs.Service.Words
import BlobFs.Token.Rehearsed
import BlobFs.Proofs.Token.Preference
import BlobFs.Proofs.Token.Freshness
import BlobFs.Proofs.Pattern.Meaning
import BlobFs.Proofs.File.Fetching
import BlobFs.Proofs.Secret.Registry
import BlobFs.Proofs.Store.InFlight
import BlobFs.Proofs.Service.Words
import BlobFs.Proofs.File.Words
import BlobFs.Proofs.Pattern.Literal
import BlobFs.Proofs.Credential.Chain
import BlobFs.Proofs.Credential.ConnectionString
import BlobFs.Proofs.Certificate.Layout
import BlobFs.Proofs.Store.Tiling
import BlobFs.Proofs.File.Serving
