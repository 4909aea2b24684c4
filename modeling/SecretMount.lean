import SecretMount.Host
import SecretMount.Inspect
import SecretMount.Logging
import SecretMount.VersionMap.Json
import SecretMount.Proofs.Backoff.Delay
import SecretMount.Proofs.Batch.Contained
import SecretMount.Proofs.Batch.Grammar
import SecretMount.Proofs.Batch.Selection
import SecretMount.Proofs.Mount.Again
import SecretMount.Proofs.Mount.Bytes
import SecretMount.Proofs.Mount.Volume
import SecretMount.Proofs.Pass.Accounts
import SecretMount.Proofs.Pass.Limited
import SecretMount.Proofs.Pass.Provenance
import SecretMount.Proofs.Pass.Retry
import SecretMount.Proofs.Pass.Unsupported
import SecretMount.Proofs.PathTranslation.FixedPoints
import SecretMount.Proofs.RateLimit.Hint
import SecretMount.Proofs.RateLimit.Waiting
import SecretMount.Proofs.ResourceName.RoundTrip
import SecretMount.Proofs.SecretRecord.RoundTrip
import SecretMount.Proofs.SecretValue.Composed
import SecretMount.Proofs.SecretValue.Current
import SecretMount.Proofs.SecretValue.Entries
import SecretMount.Proofs.VersionMap.History
