import KnowledgeClient.Main
import KnowledgeClient.Session
import KnowledgeClient.Proofs.Binding
import KnowledgeClient.Proofs.Removal
import KnowledgeClient.Proofs.Pinning
import KnowledgeClient.Proofs.Gathering
import KnowledgeClient.Proofs.Verdicts
import KnowledgeClient.Proofs.Confinement
import KnowledgeClient.Proofs.Secrecy
import KnowledgeClient.Proofs.Policies
import KnowledgeClient.Proofs.Bodies
import KnowledgeClient.Proofs.Documents
import KnowledgeClient.Proofs.Lines
import KnowledgeClient.Proofs.Interference
import KnowledgeClient.Proofs.Framing
import KnowledgeClient.Proofs.Exits
import KnowledgeClient.Proofs.LocalFailures
import KnowledgeClient.Proofs.Uploading
import KnowledgeClient.Proofs.Prompting
import KnowledgeClient.Proofs.Contents
import KnowledgeClient.Proofs.Messages
import KnowledgeClient.Proofs.Nesting
import KnowledgeClient.Proofs.Codes
import KnowledgeClient.Proofs.Configuring
